import TableForge.Proofs.Store.Execution
import TableForge.Store.Listing

namespace TableForge.Store

-- The names of the columns that values can be given to.
def StoredTable.insertable (t : StoredTable) : List String :=
  (t.columns.filter (·.generated.isNone)).map (·.name)

-- A table that can be read under a name is stored, or has no key.
theorem mem_or_keyless_of_source {s : Store} {name : Script.ObjectName} {t : StoredTable}
    (h : s.source? name = some (.inl t)) : t ∈ s.tables ∨ t.primaryKey = [] := by
  rw [source?, Option.or_eq_some_iff] at h
  rcases h with h | ⟨-, h⟩
  · exact .inl (mem_of_object h)
  · obtain ⟨temporary, -, h⟩ := Option.map_eq_some_iff.mp h
    obtain rfl := Sum.inl.inj h
    exact .inr rfl

theorem sound_of_load {script : String} {around : Surroundings} {s : Store}
    (h : load script around = .ok s) : s.Sound := by
  unfold load at h
  split at h
  · rename_i found hfound
    obtain rfl := Except.ok.inj h
    obtain ⟨statements, -, hrun⟩ := Option.bind_eq_some_iff.mp hfound
    exact sound_of_run hrun
  · simp at h

-- A statement that makes tables, indices or views, or stands around such ones.
def isDefinition : Script.Statement → Bool
  | .createTable _ | .createIndex _ | .createView _ | .begin | .commit | .rollback => true
  | _ => false

theorem next_eq_of_definition {statement : Script.Statement} (h : isDefinition statement)
    (session : Session) (around around' : Surroundings) :
    session.next? around statement = session.next? around' statement := by
  have hstep (o o' : Occasion) : session.step? o statement = session.step? o' statement := by
    cases statement with
    | createTable | createIndex | createView | begin | commit | rollback =>
      unfold Session.step?
      rfl
    | drop | insert | update | delete => cases h
  rw [Session.next?, Session.next?, hstep]

-- Definitions come to the same store wherever they are carried out.
theorem load_eq_of_definitions {script : String}
    (h : ((Script.Statement.ofScript? script).getD []).all isDefinition)
    (around around' : Surroundings) : load script around = load script around' := by
  have hrun (statements : List Script.Statement) (session : Session)
      (hall : ∀ statement ∈ statements, isDefinition statement) :
      statements.foldlM (Session.next? around) session =
        statements.foldlM (Session.next? around') session := by
    induction statements generalizing session with
    | nil => rw [List.foldlM_nil, List.foldlM_nil]
    | cons statement rest ih =>
      rw [List.forall_mem_cons] at hall
      have hrest (session : Session) := ih session hall.2
      simp only [List.foldlM_cons, next_eq_of_definition hall.1 session around around', hrest]
  rw [load, load]
  cases hread : Script.Statement.ofScript? script with
  | none => rfl
  | some statements =>
    rw [hread, Option.getD_some, List.all_eq_true] at h
    rw [Option.bind_some, Option.bind_some, run?, run?, hrun statements {} h]

-- A listed table is one that lasts, under its own name and with its own definition.
theorem exists_of_mem_listTables {s : Store} {name text : String}
    (h : (name, text) ∈ s.listTables) :
    ∃ t ∈ s.tables, t.temporary = false ∧ t.name = name ∧ t.text = text := by
  obtain ⟨t, ht, heq⟩ := List.mem_map.mp h
  obtain ⟨ht, hshown⟩ := List.mem_filter.mp (List.mem_mergeSort.mp ht)
  obtain ⟨rfl, rfl⟩ := Prod.mk.inj heq
  exact ⟨t, ht, by simpa using (Bool.and_eq_true_iff.mp hshown).1, rfl, rfl⟩

-- No two tables that are shown have the same name, whatever the case of its ASCII letters.
theorem Sound.pairwise_shown {s : Store} (hs : s.Sound) :
    (s.tables.filter fun t => !t.temporary && !Text.like hiddenTables t.name).Pairwise fun t u =>
      Text.sameLetters t.name u.name = false := by
  have hlasts {t : StoredTable}
      (ht : t ∈ s.tables.filter fun t => !t.temporary && !Text.like hiddenTables t.name) :
      t.temporary = false := by
    have hshown := (List.mem_filter.mp ht).2
    simpa using (Bool.and_eq_true_iff.mp hshown).1
  refine (hs.distinct.sublist List.filter_sublist).imp_of_mem fun ht hu hne => ?_
  simpa [StoredTable.isSame, hlasts ht, hlasts hu] using hne

theorem Sound.pairwise_listTables {s : Store} (hs : s.Sound) :
    s.listTables.Pairwise fun a b => Text.sameLetters a.1 b.1 = false := by
  refine List.pairwise_map.mpr ((List.mergeSort_perm _ _).symm.pairwise hs.pairwise_shown ?_)
  exact fun h => (sameLetters_comm _ _).trans h

-- The table that is read under the name of one that lasts is that one, unless a temporary table
-- has the name too.
theorem eq_of_source {s : Store} {t u : StoredTable} (hs : s.Sound) (ht : t ∈ s.tables)
    (hlasts : t.temporary = false) (hnone : s.tableIn? true t.name = none)
    (h : s.source? ⟨none, t.name⟩ = some (.inl u)) : u = t := by
  cases hfound : s.tableIn? false t.name with
  | none =>
    have hdiffer := List.find?_eq_none.mp hfound t ht
    simp [hlasts, Text.sameLetters] at hdiffer
  | some v =>
    have hv : v = t := by
      refine hs.eq_of_isSame (List.mem_of_find?_eq_some hfound) ht ?_
      simpa [StoredTable.isSame, hlasts] using List.find?_some hfound
    cases hview : s.viewIn? true t.name with
    | some w => simp [source?, object?, schemas, hnone, hview] at h
    | none =>
      have hread : v = u := by
        simpa [source?, object?, schemas, List.findSome?, hnone, hview, hfound] using h
      rw [← hread, hv]

theorem map_name_tableColumns (t : StoredTable) :
    (tableColumns t).map (·.name) = t.insertable := by
  have hnames : (tableColumns t).map (·.name) =
      ((t.columns.zipIdx.filter (·.1.generated.isNone)).map (·.1)).map (·.name) := by
    rw [tableColumns, List.map_map]
    conv_rhs => rw [← List.zipIdx_map_fst 0 (t.columns.zipIdx.filter _), List.map_map, List.map_map]
    rfl
  have hvisible : (t.columns.zipIdx.filter (·.1.generated.isNone)).map (·.1) =
      t.columns.filter (·.generated.isNone) := by
    conv_rhs => rw [← List.zipIdx_map_fst 0 t.columns, List.filter_map]
    rfl
  rw [hnames, hvisible, StoredTable.insertable]

theorem map_fst_seedRow {table : String} {names : List String} {cells : List Datum} {row : Row}
    (h : seedRow table names cells = .ok row) (hlength : cells.length = names.length) :
    row.map (·.1) = names := by
  have hpairs := forall₂_of_mapM_ok h
  have hsame : (names.zip cells).map (·.1) = row.map (·.1) := by
    rw [← List.forall₂_eq_eq_eq, List.forall₂_map_left_iff, List.forall₂_map_right_iff]
    refine hpairs.imp ?_
    rintro ⟨name, d⟩ value hvalue
    obtain ⟨v, -, hvalue⟩ := ok_of_bind hvalue
    obtain rfl := Except.ok.inj hvalue
    rfl
  rw [← hsame, List.map_fst_zip (by omega)]

theorem mem_of_mem_scan {s : Store} {t : StoredTable} {columns : List Nat} {row : StoredRow}
    (h : row ∈ s.scan t columns) : row ∈ t.rows := by
  unfold scan at h
  split at h
  · exact List.mem_mergeSort.mp h
  · exact List.mem_mergeSort.mp (List.mem_mergeSort.mp h)

-- Every row that is read from a stored table has a value under the name of every column.
theorem map_fst_of_listRows {s : Store} {o : Occasion} {table : String} {t : StoredTable}
    {rows : List Row} (hs : s.Rectangular) (ht : t ∈ s.tables)
    (hsource : s.source? ⟨none, table⟩ = some (.inl t)) (h : s.listRows o table = .ok rows) :
    ∀ row ∈ rows, row.map (·.1) = t.columns.map (·.name) := by
  unfold listRows at h
  simp only [hsource] at h
  intro row hrow
  obtain ⟨stored, hstored, hread⟩ := exists_of_mem_mapM_ok h hrow
  refine map_fst_seedRow hread ?_
  rw [hs t ht stored (mem_of_mem_scan hstored), List.length_map]

end TableForge.Store
