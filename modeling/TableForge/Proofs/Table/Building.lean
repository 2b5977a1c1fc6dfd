import TableForge.Proofs.Index
import TableForge.Proofs.Table.Fields

-- When a table of a catalog can be built, what it is made of, and which of several errors is told.
namespace TableForge

-- An element of a list with the property, in front of which no other one has it.
def FirstIn {α : Type} (P : α → Prop) (l : List α) (a : α) : Prop :=
  ∃ before after, l = before ++ a :: after ∧ (∀ b ∈ before, ¬P b) ∧ P a

namespace Column

-- The declared type is none that a table may have.
def IsUntyped (c : Column) : Prop := ColumnType.ofDeclared? c.declared = none

-- The field that stands for the column. The key is never null, whatever its declaration says.
structure IsField (c : Column) (f : Field) : Prop where
  ordinal : f.ordinal = c.ordinal
  name : f.name = c.name
  type : ColumnType.ofDeclared? c.declared = some f.type
  nullable : f.nullable = (!c.notNull && !c.isKey)

end Column

namespace Table

-- All questions about a table are answered, and all types of its columns are known.
structure Listed (catalog : Catalog) (name : String) (columns : List Column)
    (indices : List Index) (rows : List Row) : Prop where
  hasColumns : catalog.columns name = .ok columns
  typed : ∀ c ∈ columns, ¬c.IsUntyped
  hasIndices : catalog.indices name = .ok indices
  hasRows : catalog.rows name = .ok rows

-- Why there is no table. Each constructor but the first says what went well before.
inductive BuildFails (catalog : Catalog) (name : String) : Error → Prop
  | columns {e : Error} : catalog.columns name = .error e → BuildFails catalog name e
  | type {columns : List Column} {c : Column} : catalog.columns name = .ok columns →
    FirstIn Column.IsUntyped columns c →
    BuildFails catalog name (.unmappedType name c.name c.declared)
  | indices {columns : List Column} {e : Error} : catalog.columns name = .ok columns →
    (∀ c ∈ columns, ¬c.IsUntyped) → catalog.indices name = .error e → BuildFails catalog name e
  | rows {columns : List Column} {indices : List Index} {e : Error} :
    catalog.columns name = .ok columns → (∀ c ∈ columns, ¬c.IsUntyped) →
    catalog.indices name = .ok indices → catalog.rows name = .error e → BuildFails catalog name e
  | noKey {columns : List Column} {indices : List Index} {rows : List Row} :
    Listed catalog name columns indices rows → columns.filter (·.isKey) = [] →
    BuildFails catalog name (.missingKey name)
  | manyKeys {columns : List Column} {indices : List Index} {rows : List Row} :
    Listed catalog name columns indices rows → 2 ≤ (columns.filter (·.isKey)).length →
    BuildFails catalog name (.compositeKey name ((columns.filter (·.isKey)).map (·.name)))
  | index {columns : List Column} {indices : List Index} {rows : List Row} {index : Index} :
    Listed catalog name columns indices rows → (columns.filter (·.isKey)).length = 1 →
    FirstIn (¬·.HasKeyword) indices index →
    BuildFails catalog name (.malformedIndex index.name index.definition)

-- What a table is made of: columns in front of the key and behind it, indices and rows.
structure MadeOf (name definition : String) (front : List Column) (key : Column)
    (back : List Column) (indices : List Index) (rows : List Row) (t : Table) : Prop where
  named : t.name = name
  defined : t.definition = definition
  before : List.Forall₂ Column.IsField front t.fields.before
  primary : key.IsField t.fields.key
  after : List.Forall₂ Column.IsField back t.fields.after
  notNull : t.fields.key.nullable = false
  others : List.Forall₂ Column.IsField (front ++ back) t.fields.others
  guarded : List.Forall₂ (fun index guarded => guarded.index = index ∧
    index.createIfMissing = .ok guarded.statement) indices t.indices
  stored : t.rows = rows
  seeds : List.Forall₂ (fun row seed => seed.table = name ∧
    seed.literals = row.values.map Literal.ofValue) rows t.seeds

theorem fieldOfColumn_eq_error_iff {name : String} {c : Column} {e : Error} :
    fieldOfColumn name c = .error e ↔ c.IsUntyped ∧ e = .unmappedType name c.name c.declared := by
  rw [fieldOfColumn, Column.IsUntyped]
  cases ColumnType.ofDeclared? c.declared <;> simp [eq_comm]

theorem fieldOfColumn_eq_ok_iff_isField {name : String} {c : Column} {f : Field} {marked : Bool} :
    fieldOfColumn name c = .ok (f, marked) ↔ c.IsField f ∧ c.isKey = marked := by
  rw [fieldOfColumn_eq_ok_iff]
  constructor
  · rintro ⟨type, htype, hfield⟩
    obtain ⟨rfl, rfl⟩ := Prod.mk.inj hfield
    exact ⟨⟨rfl, rfl, htype, rfl⟩, rfl⟩
  · rintro ⟨⟨hordinal, hname, htype, hnullable⟩, rfl⟩
    refine ⟨f.type, htype, ?_⟩
    rw [← hordinal, ← hname, ← hnullable]

-- What fails for a first element is what all elements before it do not fail for.
theorem mapM_eq_error_iff_firstIn {α β : Type} {f : α → Except Error β} {P : α → Prop}
    {err : α → Error} (hf : ∀ a e, f a = .error e ↔ P a ∧ e = err a) {l : List α} {e : Error} :
    l.mapM f = .error e ↔ ∃ a, FirstIn P l a ∧ e = err a := by
  have hnone (a : α) : (∀ e', f a ≠ .error e') ↔ ¬P a := by
    simp [hf]
  rw [mapM_eq_error_iff]
  simp only [hf, hnone]
  constructor
  · rintro ⟨before, a, after, hl, hbefore, ha, rfl⟩
    exact ⟨a, ⟨before, after, hl, hbefore, ha⟩, rfl⟩
  · rintro ⟨a, ⟨before, after, hl, hbefore, ha⟩, rfl⟩
    exact ⟨before, a, after, hl, hbefore, ha, rfl⟩

theorem guardIndices_eq_error_iff {indices : List Index} {e : Error} :
    guardIndices indices = .error e ↔
      ∃ index, FirstIn (¬Index.HasKeyword ·) indices index ∧
        e = .malformedIndex index.name index.definition := by
  have hstep (index : Index) (e : Error) :
      (do return ⟨index, ← index.createIfMissing⟩ : Except Error GuardedIndex) = .error e ↔
        ¬index.HasKeyword ∧ e = .malformedIndex index.name index.definition := by
    rw [bind_eq_error_iff, Index.createIfMissing_eq_error_iff]
    simp [pure, Except.pure]
  exact mapM_eq_error_iff_firstIn hstep

theorem guardIndices_eq_ok_iff {indices : List Index} {guarded : List GuardedIndex} :
    guardIndices indices = .ok guarded ↔
      List.Forall₂ (fun index g => g.index = index ∧ index.createIfMissing = .ok g.statement)
        indices guarded := by
  have hstep (index : Index) (g : GuardedIndex) :
      (do return ⟨index, ← index.createIfMissing⟩ : Except Error GuardedIndex) = .ok g ↔
        g.index = index ∧ index.createIfMissing = .ok g.statement := by
    rw [bind_eq_ok_iff]
    constructor
    · rintro ⟨statement, hstatement, hg⟩
      obtain rfl := Except.ok.inj hg
      exact ⟨rfl, hstatement⟩
    · rintro ⟨rfl, hstatement⟩
      exact ⟨g.statement, hstatement, rfl⟩
  constructor
  · exact fun h => (forall₂_of_mapM_ok h).imp fun index g => (hstep index g).mp
  · exact fun h => mapM_ok_of_forall₂ (h.imp fun index g => (hstep index g).mpr)

theorem exists_guarded_iff {indices : List Index} :
    (∃ guarded, guardIndices indices = .ok guarded) ↔ ∀ index ∈ indices, index.HasKeyword := by
  rw [guardIndices, exists_mapM_ok_iff]
  refine forall₂_congr fun index _ => ?_
  rw [← Index.exists_eq_ok_iff]
  cases index.createIfMissing <;> simp [bind, Except.bind, pure, Except.pure]

section Assemble

variable {name definition : String} {fields : List (Field × Bool)} {indices : List Index}
  {rows : List Row}

theorem assemble_eq_ok_iff {t : Table} :
    assemble name definition fields indices rows = .ok t ↔
      t.name = name ∧ t.definition = definition ∧ t.rows = rows ∧
        KeyedFields.ofMarked fields = .ok t.fields ∧ guardIndices indices = .ok t.indices := by
  refine ⟨assemble_eq_ok, ?_⟩
  rintro ⟨rfl, rfl, rfl, hkeyed, hguarded⟩
  rw [assemble, hkeyed, hguarded]
  rfl

theorem assemble_eq_error_iff {e : Error} :
    assemble name definition fields indices rows = .error e ↔
      (∃ names, KeyedFields.ofMarked fields = .error names ∧ e = keyError name names) ∨
        (∃ keyed, KeyedFields.ofMarked fields = .ok keyed) ∧ guardIndices indices = .error e := by
  rw [assemble]
  cases KeyedFields.ofMarked fields with
  | error names => simp [Except.mapError, bind, Except.bind, eq_comm]
  | ok keyed =>
    cases guardIndices indices <;> simp [Except.mapError, bind, Except.bind, pure, Except.pure]

end Assemble

section Columns

variable {name : String} {columns : List Column}

theorem exists_fields_iff :
    (∃ fields, columns.mapM (fieldOfColumn name) = .ok fields) ↔ ∀ c ∈ columns, ¬c.IsUntyped := by
  rw [exists_mapM_ok_iff]
  refine forall₂_congr fun c _ => ?_
  rw [fieldOfColumn, Column.IsUntyped]
  cases ColumnType.ofDeclared? c.declared <;> simp

theorem names_of_marked {fields : List (Field × Bool)}
    (h : columns.mapM (fieldOfColumn name) = .ok fields) :
    (fields.filter (·.2)).map (·.1.name) = (columns.filter (·.isKey)).map (·.name) := by
  have hall := forall₂_of_mapM_ok h
  clear h
  induction hall with
  | nil => rfl
  | @cons c field _ _ hfield _ ih =>
    obtain ⟨hname, hmarked⟩ := of_fieldOfColumn hfield
    rw [List.filter_cons, List.filter_cons, hmarked]
    split
    · rw [List.map_cons, List.map_cons, hname, ih]
    · exact ih

theorem length_marked {fields : List (Field × Bool)}
    (h : columns.mapM (fieldOfColumn name) = .ok fields) :
    (fields.filter (·.2)).length = (columns.filter (·.isKey)).length := by
  simpa using congrArg List.length (names_of_marked h)

theorem unmarked_iff {fields : List Field} :
    columns.mapM (fieldOfColumn name) = .ok (fields.map (·, false)) ↔
      (∀ c ∈ columns, c.isKey = false) ∧ List.Forall₂ Column.IsField columns fields := by
  have hmap : columns.mapM (fieldOfColumn name) = .ok (fields.map (·, false)) ↔
      List.Forall₂ (fun c f => c.isKey = false ∧ c.IsField f) columns fields := by
    constructor
    · intro h
      refine (List.forall₂_map_right_iff.mp (forall₂_of_mapM_ok h)).imp fun c f hf => ?_
      exact (fieldOfColumn_eq_ok_iff_isField.mp hf).symm
    · intro h
      refine mapM_ok_of_forall₂ (List.forall₂_map_right_iff.mpr (h.imp fun c f hf => ?_))
      exact fieldOfColumn_eq_ok_iff_isField.mpr hf.symm
  rw [hmap, List.forall₂_and_left]

-- Columns become fields around a key when one of them is the key.
theorem fields_around_key_iff {keyed : KeyedFields} :
    (∃ fields, columns.mapM (fieldOfColumn name) = .ok fields ∧
        KeyedFields.ofMarked fields = .ok keyed) ↔
      ∃ front key back, columns = front ++ key :: back ∧ key.isKey = true ∧
        (∀ c ∈ front ++ back, c.isKey = false) ∧ List.Forall₂ Column.IsField front keyed.before ∧
        key.IsField keyed.key ∧ List.Forall₂ Column.IsField back keyed.after := by
  constructor
  · rintro ⟨_, hfields, hkeyed⟩
    obtain rfl := KeyedFields.ofMarked_eq_ok_iff.mp hkeyed
    have hall := forall₂_of_mapM_ok hfields
    have hfront := List.forall₂_take_append columns _ _ hall
    obtain ⟨key, back, hkey, hback, hdrop⟩ :=
      List.forall₂_cons_right_iff.mp (List.forall₂_drop_append columns _ _ hall)
    have hcolumns := List.take_append_drop (keyed.before.map (·, false)).length columns
    obtain ⟨hfront, hbefore⟩ := unmarked_iff.mp (mapM_ok_of_forall₂ hfront)
    obtain ⟨hback, hafter⟩ := unmarked_iff.mp (mapM_ok_of_forall₂ hback)
    obtain ⟨hfield, hmarked⟩ := fieldOfColumn_eq_ok_iff_isField.mp hkey
    rw [hdrop] at hcolumns
    exact ⟨_, key, back, hcolumns.symm, hmarked, List.forall_mem_append.mpr ⟨hfront, hback⟩,
      hbefore, hfield, hafter⟩
  · rintro ⟨front, key, back, rfl, hkey, hothers, hbefore, hfield, hafter⟩
    obtain ⟨hfront, hback⟩ := List.forall_mem_append.mp hothers
    refine ⟨_, ?_, KeyedFields.ofMarked_eq_ok_iff.mpr rfl⟩
    have hkeyField : fieldOfColumn name key = .ok (keyed.key, true) :=
      fieldOfColumn_eq_ok_iff_isField.mpr ⟨hfield, hkey⟩
    rw [List.mapM_append, List.mapM_cons, unmarked_iff.mpr ⟨hfront, hbefore⟩, hkeyField,
      unmarked_iff.mpr ⟨hback, hafter⟩]
    rfl

end Columns

section Build

variable {catalog : Catalog} {name definition : String} {t : Table} {e : Error}

-- One step after the other.
theorem build_eq_error_iff_steps :
    build catalog name definition = .error e ↔
      catalog.columns name = .error e ∨ ∃ columns, catalog.columns name = .ok columns ∧
        (columns.mapM (fieldOfColumn name) = .error e ∨
          ∃ fields, columns.mapM (fieldOfColumn name) = .ok fields ∧
            (catalog.indices name = .error e ∨ ∃ indices, catalog.indices name = .ok indices ∧
              (catalog.rows name = .error e ∨ ∃ rows, catalog.rows name = .ok rows ∧
                assemble name definition fields indices rows = .error e))) := by
  simp only [build, bind_eq_error_iff]

theorem build_eq_ok_iff_steps :
    build catalog name definition = .ok t ↔
      ∃ columns fields indices rows, catalog.columns name = .ok columns ∧
        columns.mapM (fieldOfColumn name) = .ok fields ∧ catalog.indices name = .ok indices ∧
        catalog.rows name = .ok rows ∧
        assemble name definition fields indices rows = .ok t := by
  simp only [build, bind_eq_ok_iff]
  constructor
  · rintro ⟨columns, hcolumns, fields, hfields, indices, hindices, rows, hrows, ht⟩
    exact ⟨columns, fields, indices, rows, hcolumns, hfields, hindices, hrows, ht⟩
  · rintro ⟨columns, fields, indices, rows, hcolumns, hfields, hindices, hrows, ht⟩
    exact ⟨columns, hcolumns, fields, hfields, indices, hindices, rows, hrows, ht⟩

theorem keyError_eq_of_length_ne_one {keys : List Column} (h : keys.length ≠ 1) :
    (keyError name (keys.map (·.name)) = e) ↔
      (keys = [] ∧ e = .missingKey name) ∨
        (2 ≤ keys.length ∧ e = .compositeKey name (keys.map (·.name))) := by
  match keys with
  | [] => simp [keyError, eq_comm]
  | [key] => exact absurd rfl h
  | key :: other :: more => simp [keyError, eq_comm]

-- The keys of the columns are looked at before the indices are.
theorem assemble_fields_eq_error_iff {columns : List Column} {fields : List (Field × Bool)}
    {indices : List Index} {rows : List Row}
    (hfields : columns.mapM (fieldOfColumn name) = .ok fields) :
    assemble name definition fields indices rows = .error e ↔
      (columns.filter (·.isKey) = [] ∧ e = .missingKey name) ∨
        (2 ≤ (columns.filter (·.isKey)).length ∧
          e = .compositeKey name ((columns.filter (·.isKey)).map (·.name))) ∨
        ((columns.filter (·.isKey)).length = 1 ∧ ∃ index,
          FirstIn (¬Index.HasKeyword ·) indices index ∧
            e = .malformedIndex index.name index.definition) := by
  have hnames := names_of_marked hfields
  have hlength := length_marked hfields
  have hkeys : (∃ names, KeyedFields.ofMarked fields = .error names ∧ e = keyError name names) ↔
      (columns.filter (·.isKey)).length ≠ 1 ∧
        keyError name ((columns.filter (·.isKey)).map (·.name)) = e := by
    simp only [KeyedFields.ofMarked_eq_error_iff, hnames, hlength]
    simp [eq_comm]
  rw [assemble_eq_error_iff, hkeys, KeyedFields.exists_keyed_iff, hlength,
    guardIndices_eq_error_iff, ← or_assoc]
  refine or_congr_left ?_
  by_cases hcount : (columns.filter (·.isKey)).length = 1
  · obtain ⟨key, hkey⟩ := List.length_eq_one_iff.mp hcount
    simp [hkey]
  · simp [hcount, keyError_eq_of_length_ne_one hcount]

theorem build_eq_error_of_assemble {columns : List Column} {indices : List Index} {rows : List Row}
    (hlisted : Listed catalog name columns indices rows)
    (h : ∀ fields, columns.mapM (fieldOfColumn name) = .ok fields →
      assemble name definition fields indices rows = .error e) :
    build catalog name definition = .error e := by
  obtain ⟨fields, hfields⟩ := exists_fields_iff.mpr hlisted.typed
  exact build_eq_error_iff_steps.mpr (.inr ⟨columns, hlisted.hasColumns, .inr ⟨fields, hfields, .inr
    ⟨indices, hlisted.hasIndices, .inr ⟨rows, hlisted.hasRows, h fields hfields⟩⟩⟩⟩)

theorem build_eq_error_iff :
    build catalog name definition = .error e ↔ BuildFails catalog name e := by
  have htypes {columns : List Column} {e : Error} :
      columns.mapM (fieldOfColumn name) = .error e ↔
        ∃ c, FirstIn Column.IsUntyped columns c ∧ e = .unmappedType name c.name c.declared :=
    mapM_eq_error_iff_firstIn fun c e => fieldOfColumn_eq_error_iff
  rw [build_eq_error_iff_steps]
  constructor
  · rintro (h | ⟨columns, hcolumns, h | ⟨fields, hfields, h⟩⟩)
    · exact .columns h
    · obtain ⟨c, hc, rfl⟩ := htypes.mp h
      exact .type hcolumns hc
    have htyped := exists_fields_iff.mp ⟨fields, hfields⟩
    rcases h with h | ⟨indices, hindices, h | ⟨rows, hrows, h⟩⟩
    · exact .indices hcolumns htyped h
    · exact .rows hcolumns htyped hindices h
    have hlisted : Listed catalog name columns indices rows := ⟨hcolumns, htyped, hindices, hrows⟩
    rcases (assemble_fields_eq_error_iff hfields).mp h with
      ⟨hnone, rfl⟩ | ⟨hmany, rfl⟩ | ⟨hone, index, hindex, rfl⟩
    · exact .noKey hlisted hnone
    · exact .manyKeys hlisted hmany
    · exact .index hlisted hone hindex
  · intro h
    cases h with
    | columns h => exact .inl h
    | type hcolumns hc => exact .inr ⟨_, hcolumns, .inl (htypes.mpr ⟨_, hc, rfl⟩)⟩
    | indices hcolumns htyped h =>
      obtain ⟨fields, hfields⟩ := exists_fields_iff.mpr htyped
      exact .inr ⟨_, hcolumns, .inr ⟨fields, hfields, .inl h⟩⟩
    | rows hcolumns htyped hindices h =>
      obtain ⟨fields, hfields⟩ := exists_fields_iff.mpr htyped
      exact .inr ⟨_, hcolumns, .inr ⟨fields, hfields, .inr ⟨_, hindices, .inl h⟩⟩⟩
    | noKey hlisted hnone =>
      refine build_eq_error_iff_steps.mp (build_eq_error_of_assemble hlisted fun _ hfields => ?_)
      exact (assemble_fields_eq_error_iff hfields).mpr (.inl ⟨hnone, rfl⟩)
    | manyKeys hlisted hmany =>
      refine build_eq_error_iff_steps.mp (build_eq_error_of_assemble hlisted fun _ hfields => ?_)
      exact (assemble_fields_eq_error_iff hfields).mpr (.inr (.inl ⟨hmany, rfl⟩))
    | index hlisted hone hindex =>
      refine build_eq_error_iff_steps.mp (build_eq_error_of_assemble hlisted fun _ hfields => ?_)
      exact (assemble_fields_eq_error_iff hfields).mpr (.inr (.inr ⟨hone, _, hindex, rfl⟩))

theorem build_eq_ok_iff :
    build catalog name definition = .ok t ↔
      ∃ front key back indices rows, Listed catalog name (front ++ key :: back) indices rows ∧
        key.isKey = true ∧ (∀ c ∈ front ++ back, c.isKey = false) ∧
        MadeOf name definition front key back indices rows t := by
  rw [build_eq_ok_iff_steps]
  constructor
  · rintro ⟨columns, fields, indices, rows, hcolumns, hfields, hindices, hrows, ht⟩
    have htyped := exists_fields_iff.mp ⟨fields, hfields⟩
    obtain ⟨hname, hdefinition, hstored, hkeyed, hguarded⟩ := assemble_eq_ok_iff.mp ht
    obtain ⟨front, key, back, rfl, hkey, hothers, hbefore, hfield, hafter⟩ :=
      fields_around_key_iff.mp ⟨fields, hfields, hkeyed⟩
    refine ⟨front, key, back, indices, rows, ⟨hcolumns, htyped, hindices, hrows⟩, hkey, hothers,
      hname, hdefinition, hbefore, hfield, hafter, ?_, List.rel_append hbefore hafter,
      guardIndices_eq_ok_iff.mp hguarded, hstored, ?_⟩
    · rw [hfield.nullable, hkey, Bool.not_true, Bool.and_false]
    · rw [seeds, hname, hstored, List.forall₂_map_right_iff, List.forall₂_same]
      exact fun row _ => ⟨rfl, rfl⟩
  · rintro ⟨front, key, back, indices, rows, hlisted, hkey, hothers, hmade⟩
    obtain ⟨fields, hfields, hkeyed⟩ := fields_around_key_iff.mpr
      ⟨front, key, back, rfl, hkey, hothers, hmade.before, hmade.primary, hmade.after⟩
    exact ⟨_, fields, indices, rows, hlisted.hasColumns, hfields, hlisted.hasIndices,
      hlisted.hasRows, assemble_eq_ok_iff.mpr ⟨hmade.named, hmade.defined, hmade.stored, hkeyed,
        guardIndices_eq_ok_iff.mpr hmade.guarded⟩⟩

theorem exists_build_iff :
    (∃ t, build catalog name definition = .ok t) ↔
      ∃ columns indices rows, Listed catalog name columns indices rows ∧
        (∃ key, columns.filter (·.isKey) = [key]) ∧ ∀ index ∈ indices, index.HasKeyword := by
  simp only [← List.length_eq_one_iff]
  constructor
  · rintro ⟨t, ht⟩
    obtain ⟨columns, fields, indices, rows, hcolumns, hfields, hindices, hrows, ht⟩ :=
      build_eq_ok_iff_steps.mp ht
    obtain ⟨-, -, -, hkeyed, hguarded⟩ := assemble_eq_ok_iff.mp ht
    refine ⟨columns, indices, rows, ⟨hcolumns, exists_fields_iff.mp ⟨fields, hfields⟩, hindices,
      hrows⟩, ?_, exists_guarded_iff.mp ⟨_, hguarded⟩⟩
    rw [← length_marked hfields]
    exact KeyedFields.exists_keyed_iff.mp ⟨_, hkeyed⟩
  · rintro ⟨columns, indices, rows, hlisted, hone, hguards⟩
    obtain ⟨fields, hfields⟩ : ∃ fields, columns.mapM (fieldOfColumn name) = .ok fields :=
      exists_fields_iff.mpr hlisted.typed
    rw [← length_marked hfields] at hone
    obtain ⟨keyed, hkeyed⟩ := KeyedFields.exists_keyed_iff.mpr hone
    obtain ⟨guarded, hguarded⟩ := exists_guarded_iff.mpr hguards
    refine ⟨⟨name, definition, keyed, guarded, rows⟩, build_eq_ok_iff_steps.mpr ?_⟩
    exact ⟨columns, fields, indices, rows, hlisted.hasColumns, hfields, hlisted.hasIndices,
      hlisted.hasRows, assemble_eq_ok_iff.mpr ⟨rfl, rfl, rfl, hkeyed, hguarded⟩⟩

-- A table is built when all questions are answered, all types are known, one column is the key and
-- each index has the keyword. It is made of the answers then, in their order. Otherwise the error
-- is the first one of those that there are.
theorem build_outcome (catalog : Catalog) (name definition : String) :
    ((∃ t, build catalog name definition = .ok t) ↔
      ∃ columns indices rows, Listed catalog name columns indices rows ∧
        (∃ key, columns.filter (·.isKey) = [key]) ∧ ∀ index ∈ indices, index.HasKeyword) ∧
    (∀ t, build catalog name definition = .ok t ↔
      ∃ front key back indices rows, Listed catalog name (front ++ key :: back) indices rows ∧
        key.isKey = true ∧ (∀ c ∈ front ++ back, c.isKey = false) ∧
        MadeOf name definition front key back indices rows t) ∧
    ∀ e, build catalog name definition = .error e ↔ BuildFails catalog name e :=
  ⟨exists_build_iff, fun _ => build_eq_ok_iff, fun _ => build_eq_error_iff⟩

end Build

end Table

end TableForge
