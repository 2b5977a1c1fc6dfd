import TableForge.Proofs.Store.Execution

namespace TableForge.Store

open Script (IndexDefinition ObjectName Statement TableDefinition ViewDefinition)

-- What an object is called, and the schema that it is in.
structure Label where
  temporary : Bool
  name : String
  deriving DecidableEq, Repr

structure DefinedTable extends Label where
  text : String
  deriving DecidableEq, Repr

structure DefinedIndex extends Label where
  -- the name of its table
  table : String
  text : String
  deriving DecidableEq, Repr

-- What a script has defined and not dropped. Rows have no part in it, nor has what the store keeps
-- for itself.
structure Ledger where
  tables : List DefinedTable := []
  views : List Label := []
  indices : List DefinedIndex := []
  deriving DecidableEq, Repr

-- The object is in the schema and has the name.
def Label.isCalled (l : Label) (temporary : Bool) (name : String) : Bool :=
  l.temporary == temporary && Text.sameLetters l.name name

namespace Ledger

def table? (l : Ledger) (name : ObjectName) : Option DefinedTable :=
  (schemas name.schema).findSome? fun b => l.tables.find? (·.isCalled b name.name)

def view? (l : Ledger) (name : ObjectName) : Option Label :=
  (schemas name.schema).findSome? fun b => l.views.find? (·.isCalled b name.name)

def index? (l : Ledger) (name : ObjectName) : Option DefinedIndex :=
  (schemas name.schema).findSome? fun b => l.indices.find? (·.isCalled b name.name)

-- There is a table or a view under the name.
def isTaken (l : Ledger) (temporary : Bool) (name : String) : Bool :=
  l.tables.any (·.isCalled temporary name) || l.views.any (·.isCalled temporary name)

-- A new object is temporary when its statement says so or its schema is that of such objects.
def isTemporary (temporary : Bool) (name : ObjectName) : Bool :=
  temporary || name.schema.any (Text.sameLetters · "temp")

def createTable (l : Ledger) (d : TableDefinition) : Ledger :=
  let temporary := isTemporary d.temporary d.name
  if l.isTaken temporary d.name.name then l
  else { l with tables := l.tables ++ [⟨⟨temporary, d.name.name⟩, d.text⟩] }

def createView (l : Ledger) (d : ViewDefinition) : Ledger :=
  let temporary := isTemporary d.temporary d.name
  if l.isTaken temporary d.name.name then l
  else { l with views := l.views ++ [⟨temporary, d.name.name⟩] }

-- An index is in the schema of its table.
def createIndex (l : Ledger) (d : IndexDefinition) : Ledger :=
  match l.table? ⟨d.name.schema, d.table⟩ with
  | none => l
  | some t =>
    if l.indices.any (·.isCalled t.temporary d.name.name) then l
    else { l with indices := l.indices ++ [⟨⟨t.temporary, d.name.name⟩, t.name, d.text⟩] }

-- A table goes with its indices.
def dropTable (l : Ledger) (name : ObjectName) : Ledger :=
  match l.table? name with
  | none => l
  | some t => { l with
      tables := l.tables.filter (!·.isCalled t.temporary t.name)
      indices := l.indices.filter fun i =>
        !(i.temporary == t.temporary && Text.sameLetters i.table t.name) }

def dropView (l : Ledger) (name : ObjectName) : Ledger :=
  match l.view? name with
  | none => l
  | some v => { l with views := l.views.filter (!·.isCalled v.temporary v.name) }

def dropIndex (l : Ledger) (name : ObjectName) : Ledger :=
  match l.index? name with
  | none => l
  | some i => { l with indices := l.indices.filter (!·.isCalled i.temporary i.name) }

end Ledger

-- A ledger in the course of a script, and the one that an open transaction would return to.
structure History where
  now : Ledger := {}
  saved : Option Ledger := none

-- A statement written down. Statements on rows define nothing.
def History.step (h : History) : Statement → History
  | .createTable d => { h with now := h.now.createTable d }
  | .createIndex d => { h with now := h.now.createIndex d }
  | .createView d => { h with now := h.now.createView d }
  | .drop .table _ name => { h with now := h.now.dropTable name }
  | .drop .view _ name => { h with now := h.now.dropView name }
  | .drop .index _ name => { h with now := h.now.dropIndex name }
  | .insert .. | .update .. | .delete .. => h
  | .begin => { h with saved := some h.now }
  | .commit => { h with saved := none }
  | .rollback => ⟨h.saved.getD h.now, none⟩

-- What the statements of a script define and do not drop.
def Ledger.of (statements : List Statement) : Ledger := (statements.foldl History.step {}).now

namespace Ledger

-- No two indices of a schema share a name, and each of them is on a table of its schema.
structure Consistent (l : Ledger) : Prop where
  differ : l.indices.Pairwise fun i j => i.isCalled j.temporary j.name = false
  owned : ∀ i ∈ l.indices, ∃ t ∈ l.tables, t.temporary = i.temporary ∧ t.name = i.table

variable {l : Ledger}

theorem Consistent.createTable (h : l.Consistent) (d : TableDefinition) :
    (l.createTable d).Consistent := by
  unfold Ledger.createTable
  dsimp only
  split
  · exact h
  · refine ⟨h.differ, fun i hi => ?_⟩
    obtain ⟨t, ht, hsame⟩ := h.owned i hi
    exact ⟨t, List.mem_append_left _ ht, hsame⟩

theorem Consistent.createView (h : l.Consistent) (d : ViewDefinition) :
    (l.createView d).Consistent := by
  unfold Ledger.createView
  dsimp only
  split
  · exact h
  · exact ⟨h.differ, h.owned⟩

theorem mem_of_table {name : ObjectName} {t : DefinedTable} (h : l.table? name = some t) :
    t ∈ l.tables := by
  obtain ⟨b, -, hb⟩ := List.exists_of_findSome?_eq_some h
  exact List.mem_of_find?_eq_some hb

theorem Consistent.createIndex (h : l.Consistent) (d : IndexDefinition) :
    (l.createIndex d).Consistent := by
  unfold Ledger.createIndex
  split
  · exact h
  rename_i t ht
  split
  · exact h
  · rename_i hnew
    refine ⟨?_, fun i hi => ?_⟩
    · rw [List.pairwise_append]
      refine ⟨h.differ, List.pairwise_singleton _ _, fun i hi j hj => ?_⟩
      obtain rfl := List.mem_singleton.mp hj
      simpa using List.any_eq_false.mp (by simpa using hnew) i hi
    · rcases List.mem_append.mp hi with hi | hi
      · exact h.owned i hi
      · obtain rfl := List.mem_singleton.mp hi
        exact ⟨t, mem_of_table ht, rfl, rfl⟩

-- The indices that stay are on tables that stay.
theorem Consistent.dropTable (h : l.Consistent) (name : ObjectName) :
    (l.dropTable name).Consistent := by
  unfold Ledger.dropTable
  split
  · exact h
  · refine ⟨h.differ.sublist List.filter_sublist, fun i hi => ?_⟩
    obtain ⟨hi, hstays⟩ := List.mem_filter.mp hi
    obtain ⟨t, ht, htemporary, hname⟩ := h.owned i hi
    refine ⟨t, List.mem_filter.mpr ⟨ht, ?_⟩, htemporary, hname⟩
    rwa [Label.isCalled, htemporary, hname]

theorem Consistent.dropView (h : l.Consistent) (name : ObjectName) :
    (l.dropView name).Consistent := by
  unfold Ledger.dropView
  split
  · exact h
  · exact ⟨h.differ, h.owned⟩

theorem Consistent.dropIndex (h : l.Consistent) (name : ObjectName) :
    (l.dropIndex name).Consistent := by
  unfold Ledger.dropIndex
  split
  · exact h
  · exact ⟨h.differ.sublist List.filter_sublist,
      fun i hi => h.owned i (List.mem_of_mem_filter hi)⟩

end Ledger

-- The ledger is consistent, and so is the one that an open transaction would return to.
structure History.Consistent (h : History) : Prop where
  now : h.now.Consistent
  saved : ∀ l ∈ h.saved, l.Consistent

theorem History.Consistent.step {h : History} (hc : h.Consistent) (statement : Statement) :
    (h.step statement).Consistent := by
  cases statement with
  | createTable d => exact ⟨hc.now.createTable d, hc.saved⟩
  | createIndex d => exact ⟨hc.now.createIndex d, hc.saved⟩
  | createView d => exact ⟨hc.now.createView d, hc.saved⟩
  | drop kind ifExists name =>
    cases kind with
    | table => exact ⟨hc.now.dropTable name, hc.saved⟩
    | view => exact ⟨hc.now.dropView name, hc.saved⟩
    | index => exact ⟨hc.now.dropIndex name, hc.saved⟩
  | insert | update | delete => exact hc
  | begin => exact ⟨hc.now, fun l hl => Option.some.inj hl ▸ hc.now⟩
  | commit => exact ⟨hc.now, by simp [History.step]⟩
  | rollback =>
    refine ⟨?_, by simp [History.step]⟩
    cases hsaved : h.saved with
    | none => simpa [History.step, hsaved] using hc.now
    | some l => simpa [History.step, hsaved] using hc.saved l hsaved

theorem Ledger.consistent_of (statements : List Statement) : (Ledger.of statements).Consistent := by
  have hstart : History.Consistent {} := ⟨⟨List.Pairwise.nil, by simp⟩, by simp⟩
  have hrun : (statements.foldl History.step {}).Consistent :=
    List.foldlRecOn statements History.step hstart fun _ h statement _ => h.step statement
  exact hrun.now

def StoredTable.entry (t : StoredTable) : DefinedTable := ⟨⟨t.temporary, t.name⟩, t.text⟩

def StoredIndex.entry (i : StoredIndex) : DefinedIndex := ⟨⟨i.temporary, i.name⟩, i.table, i.text⟩

def StoredView.entry (v : StoredView) : Label := ⟨v.temporary, v.name⟩

-- What a store tells about definitions. Tables with names of the store's own were defined by none.
def ledger (s : Store) : Ledger where
  tables := (s.tables.filter (!isOwnName ·.name)).map (·.entry)
  views := s.views.map (·.entry)
  indices := s.indices.map (·.entry)

section Lookup

variable {s : Store} {name : ObjectName}

theorem isOwnName_congr {a b : String} (h : Text.sameLetters a b) : isOwnName a = isOwnName b := by
  rw [Text.sameLetters, beq_iff_eq] at h
  simp only [isOwnName, Text.sameLetters, String.toList_ofList, List.map_take, h]

-- A table is found in the ledger as it is in the store, unless it is one of the store's own.
theorem find_tables_ledger (temporary : Bool) (name : String) :
    s.ledger.tables.find? (·.isCalled temporary name) =
      if isOwnName name then none else (s.tableIn? temporary name).map (·.entry) := by
  have hfind : s.ledger.tables.find? (·.isCalled temporary name) =
      ((s.tables.find? fun t => !isOwnName t.name &&
        (t.temporary == temporary && Text.sameLetters t.name name))).map (·.entry) := by
    rw [ledger, List.find?_map, List.find?_filter]
    simp only [← Bool.and_eq_true, Bool.decide_eq_true]
    rfl
  have hname (t : StoredTable) (h : Text.sameLetters t.name name) :
      isOwnName t.name = isOwnName name := isOwnName_congr h
  rw [hfind]
  split
  · rename_i hown
    rw [List.find?_eq_none.mpr, Option.map_none]
    intro t _ h
    obtain ⟨hnot, h⟩ := Bool.and_eq_true_iff.mp h
    rw [hname t (Bool.and_eq_true_iff.mp h).2, hown] at hnot
    simp at hnot
  · rename_i hown
    rw [tableIn?]
    congr 2
    funext t
    cases h : Text.sameLetters t.name name with
    | true => simp [hname t h, hown]
    | false => simp

theorem find_views_ledger (temporary : Bool) (name : String) :
    s.ledger.views.find? (·.isCalled temporary name) =
      (s.viewIn? temporary name).map (·.entry) := List.find?_map

theorem find_indices_ledger (temporary : Bool) (name : String) :
    s.ledger.indices.find? (·.isCalled temporary name) =
      (s.indexIn? temporary name).map (·.entry) := List.find?_map

theorem isTaken_ledger {temporary : Bool} {name : String} (h : isOwnName name = false) :
    s.ledger.isTaken temporary name = s.isTaken temporary name := by
  rw [Ledger.isTaken, ← List.isSome_find?, ← List.isSome_find?, find_tables_ledger,
    find_views_ledger, h]
  simp [isTaken]

theorem table_ledger (h : isOwnName name.name = false) :
    s.ledger.table? name =
      ((schemas name.schema).findSome? (s.tableIn? · name.name)).map (·.entry) := by
  rw [List.map_findSome?, Ledger.table?]
  congr 1
  funext b
  rw [find_tables_ledger, h]
  rfl

theorem view_ledger : s.ledger.view? name =
    ((schemas name.schema).findSome? (s.viewIn? · name.name)).map (·.entry) := by
  rw [List.map_findSome?, Ledger.view?]
  congr 1
  funext b
  exact find_views_ledger b name.name

theorem index_ledger : s.ledger.index? name = (s.index? name).map (·.entry) := by
  rw [index?, List.map_findSome?, Ledger.index?]
  congr 1
  funext b
  exact find_indices_ledger b name.name

-- A table is found where neither a table nor a view is in front of it, and so is a view.
theorem findSome_of_object {found : Option (StoredTable ⊕ StoredView)}
    (h : s.object? name = found) :
    (∀ t, found = some (.inl t) →
      (schemas name.schema).findSome? (s.tableIn? · name.name) = some t) ∧
    (∀ v, found = some (.inr v) →
      (schemas name.schema).findSome? (s.viewIn? · name.name) = some v) ∧
    (found = none → (schemas name.schema).findSome? (s.tableIn? · name.name) = none ∧
      (schemas name.schema).findSome? (s.viewIn? · name.name) = none) := by
  subst h
  rw [object?]
  induction schemas name.schema with
  | nil => simp
  | cons b rest ih =>
    simp only [List.findSome?_cons]
    cases s.tableIn? b name.name with
    | some t => simp
    | none =>
      cases s.viewIn? b name.name with
      | some v => simp
      | none => simpa using ih

-- A table of the script is found by its name where it is found in the store.
theorem table_ledger_of_object {t : StoredTable} (h : s.object? name = some (.inl t))
    (hown : isOwnName t.name = false) : s.ledger.table? name = some t.entry := by
  have hfound := (findSome_of_object h).1 t rfl
  obtain ⟨b, -, hb⟩ := List.exists_of_findSome?_eq_some hfound
  obtain ⟨-, hname⟩ : t.temporary = b ∧ Text.sameLetters t.name name.name := by
    simpa using List.find?_some hb
  rw [table_ledger ((isOwnName_congr hname).symm.trans hown), hfound, Option.map_some]

theorem view_ledger_of_object {v : StoredView} (h : s.object? name = some (.inr v)) :
    s.ledger.view? name = some v.entry := by
  rw [view_ledger, (findSome_of_object h).2.1 v rfl, Option.map_some]

theorem ledger_of_no_object (h : s.object? name = none) :
    s.ledger.table? name = none ∧ s.ledger.view? name = none := by
  obtain ⟨htable, hview⟩ := (findSome_of_object h).2.2 rfl
  constructor
  · by_cases hown : isOwnName name.name
    · rw [Ledger.table?, List.findSome?_eq_none_iff]
      intro b _
      rw [find_tables_ledger, if_pos hown]
    · rw [table_ledger (by simpa using hown), htable, Option.map_none]
  · rw [view_ledger, hview, Option.map_none]

end Lookup

section Step

variable {s s' : Store}

-- What changes only rows leaves the ledger as it is.
theorem Kept.ledger (h : Kept s s') : s'.ledger = s.ledger := by
  have htables (s : Store) : s.ledger.tables =
      (s.shape.filter (!isOwnName ·.name)).map (·.entry) := by
    simp only [Store.ledger, Store.shape, List.filter_map, List.map_map]
    rfl
  have hsame : s'.ledger.tables = s.ledger.tables := by rw [htables, htables, h.shape]
  have hviews : s'.ledger.views = s.ledger.views := congrArg (List.map _) h.views
  have hindices : s'.ledger.indices = s.ledger.indices := congrArg (List.map _) h.indices
  calc s'.ledger = ⟨s'.ledger.tables, s'.ledger.views, s'.ledger.indices⟩ := rfl
    _ = s.ledger := by rw [hsame, hviews, hindices]

theorem ledger_addTableEntries (t : StoredTable) : (s.addTableEntries t).ledger = s.ledger := by
  refine foldl_unchanged (g := Store.ledger) ?_ _ _
  rintro s ⟨key, i⟩
  dsimp only
  split <;> rfl

-- The sequence table is the store's own.
theorem ledger_withSequence (t : StoredTable) : (s.withSequence t).ledger = s.ledger := by
  unfold withSequence
  split
  · have hown : isOwnName (sequenceTable t.temporary).name := by
      change isOwnName sequenceName
      decide +kernel
    simp [ledger, addEntry, hown]
  · rfl

theorem isTemporary_of_newName {temporary found : Bool} {name : ObjectName}
    (h : newName? temporary name = some found) : Ledger.isTemporary temporary name = found := by
  obtain ⟨schema, name⟩ := name
  unfold newName? at h
  split at h
  · simp at h
  cases schema with
  | none => simpa [Ledger.isTemporary] using h
  | some schema =>
    rw [Ledger.isTemporary, Option.any_some]
    by_cases htemp : Text.sameLetters schema "temp"
    · simpa [htemp] using h
    · obtain ⟨hmain, hfound⟩ : (Text.sameLetters schema "main" = true ∧ temporary = false) ∧
          found = false := by simpa [htemp] using h
      simp [htemp, hmain.2, hfound]

theorem ledger_createTable {d : TableDefinition} (h : createTable? s d = some s') :
    s'.ledger = s.ledger.createTable d := by
  obtain ⟨temporary, htemporary, h⟩ := createTable_cases h
  have hown := isOwnName_of_newName htemporary
  rw [Ledger.createTable, isTemporary_of_newName htemporary, isTaken_ledger hown]
  obtain ⟨htaken, rfl⟩ | ⟨hfree, -, t, ht, rfl, rfl⟩ := h
  · simp [htaken]
  · obtain ⟨-, hname, htext, -⟩ := tableOf_eq_some ht
    rw [ledger_withSequence, ledger_addTableEntries, hfree]
    simp [ledger, hname, htext, hown, StoredTable.entry]

theorem ledger_createView {d : ViewDefinition} (h : createView? s d = some s') :
    s'.ledger = s.ledger.createView d := by
  obtain ⟨temporary, htemporary, h⟩ := createView_cases h
  rw [Ledger.createView, isTemporary_of_newName htemporary,
    isTaken_ledger (isOwnName_of_newName htemporary)]
  obtain ⟨htaken, rfl⟩ | ⟨hfree, rfl⟩ := h
  · simp [htaken]
  · simp [hfree, ledger, addView, StoredView.entry]

theorem indexOf_eq_some {t : StoredTable} {d : IndexDefinition} {i : StoredIndex}
    (h : indexOf? t d = some i) : i.entry = ⟨⟨t.temporary, d.name.name⟩, t.name, d.text⟩ := by
  unfold indexOf? at h
  obtain ⟨-, h⟩ := some_of_guard h
  obtain ⟨terms, -, h⟩ := Option.bind_eq_some_iff.mp h
  obtain ⟨condition, -, h⟩ := Option.bind_eq_some_iff.mp h
  obtain ⟨-, h⟩ := some_of_guard h
  obtain rfl := Option.some.inj h
  rfl

theorem ledger_createIndex {d : IndexDefinition} (h : createIndex? s d = some s') :
    s'.ledger = s.ledger.createIndex d := by
  obtain ⟨t, ht, hown, h⟩ := createIndex_cases h
  have hobject : s.object? ⟨d.name.schema, d.table⟩ = some (.inl t) := by
    unfold changeable? at ht
    split at ht
    · rename_i hfound
      rw [hfound, Option.some.inj ht]
    · simp at ht
  rw [Ledger.createIndex, table_ledger_of_object hobject hown]
  have htaken : s.ledger.indices.any (·.isCalled t.entry.temporary d.name.name) =
      (s.indexIn? t.temporary d.name.name).isSome := by
    rw [← List.isSome_find?, find_indices_ledger, Option.isSome_map]
    rfl
  simp only [htaken]
  obtain ⟨hfound, rfl⟩ | ⟨hnone, i, hi, rfl⟩ := h
  · rw [if_pos hfound]
  · simp [hnone, ledger, addEntry, indexOf_eq_some hi, StoredTable.entry]

theorem ledger_drop {p q : Progress} {kind : Script.ObjectKind} {ifExists : Bool}
    {name : ObjectName} {saved : Option Ledger} (hs : p.store.Sound)
    (h : drop? p kind ifExists name = some q) :
    History.step ⟨p.store.ledger, saved⟩ (.drop kind ifExists name) = ⟨q.store.ledger, saved⟩ := by
  have hcases := drop_cases h
  cases kind with
  | table =>
    obtain ⟨hnone, rfl⟩ | ⟨t, ht, h⟩ := hcases
    · simp [History.step, Ledger.dropTable, (ledger_of_no_object hnone).1]
    · obtain ⟨hown, s, hkept, hq⟩ := dropTable_cases hs (mem_of_object ht) h
      simp only [History.step, Ledger.dropTable, table_ledger_of_object ht hown]
      rw [hq, ← hkept.ledger]
      simp only [ledger, List.filter_map, List.filter_filter, Bool.and_comm]
      rfl
  | view =>
    obtain ⟨hnone, rfl⟩ | ⟨v, hv, hq⟩ := hcases
    · simp [History.step, Ledger.dropView, (ledger_of_no_object hnone).2]
    · simp only [History.step, Ledger.dropView, view_ledger_of_object hv]
      rw [hq]
      simp only [ledger, List.filter_map]
      rfl
  | index =>
    obtain ⟨hnone, rfl⟩ | ⟨i, hi, hq⟩ := hcases
    · simp [History.step, Ledger.dropIndex, index_ledger, hnone]
    · simp only [History.step, Ledger.dropIndex, index_ledger, hi, Option.map_some]
      rw [hq]
      simp only [ledger, List.filter_map]
      rfl

end Step

namespace Session

variable {session session' : Session}

-- What a session tells about definitions.
def history (session : Session) : History :=
  ⟨session.store.ledger, session.saved.map (·.ledger)⟩

theorem history_define {s : Option Store} (h : session.define? s = some session') :
    ∃ s', s = some s' ∧ session'.history = { session.history with now := s'.ledger } := by
  obtain ⟨s', hs', rfl⟩ := Option.map_eq_some_iff.mp h
  exact ⟨s', hs', rfl⟩

theorem history_settle {p : Progress} (h : session.settle? p = some session') :
    session'.history = { session.history with now := p.store.ledger } := by
  unfold settle? at h
  split at h
  · simp at h
  · obtain rfl := Option.some.inj h
    rfl

-- Each statement does to a session what it says in the ledger.
theorem history_step {o : Occasion} {statement : Statement} (hs : session.Sound)
    (h : session.step? o statement = some session') :
    session'.history = session.history.step statement := by
  have hrows {p : Progress} (hkept : Kept session.store p.store)
      (h : session.settle? p = some session') : session'.history = session.history := by
    rw [history_settle h, hkept.ledger]
    rfl
  cases statement with
  | createTable d =>
    obtain ⟨s, hcreate, hhistory⟩ := history_define h
    rw [hhistory, ledger_createTable hcreate]
    rfl
  | createIndex d =>
    obtain ⟨s, hcreate, hhistory⟩ := history_define h
    rw [hhistory, ledger_createIndex hcreate]
    rfl
  | createView d =>
    obtain ⟨s, hcreate, hhistory⟩ := history_define h
    rw [hhistory, ledger_createView hcreate]
    rfl
  | drop kind ifExists name =>
    obtain ⟨p, hp, h⟩ := Option.bind_eq_some_iff.mp h
    rw [history_settle h]
    exact (ledger_drop (p := session.start o) hs.store hp).symm
  | insert conflict table columns source =>
    obtain ⟨p, hp, h⟩ := Option.bind_eq_some_iff.mp h
    exact hrows (kept_insert (p := session.start o) hs.store hp) h
  | update conflict table assignments condition =>
    obtain ⟨p, hp, h⟩ := Option.bind_eq_some_iff.mp h
    exact hrows (kept_update (p := session.start o) hs.store hp) h
  | delete table condition =>
    obtain ⟨p, hp, h⟩ := Option.bind_eq_some_iff.mp h
    exact hrows (kept_delete (p := session.start o) hs.store hp) h
  | begin =>
    simp only [step?] at h
    split at h
    · simp at h
    · obtain rfl := Option.some.inj h
      rfl
  | commit =>
    simp only [step?] at h
    split at h
    · obtain rfl := Option.some.inj h
      rfl
    · simp at h
  | rollback =>
    obtain ⟨s, hsaved, rfl⟩ := Option.map_eq_some_iff.mp h
    simp [history, History.step, hsaved]

theorem history_next {around : Surroundings} {statement : Statement} (hs : session.Sound)
    (h : session.next? around statement = some session') :
    session'.history = session.history.step statement := by
  obtain ⟨reached, hstep, h⟩ := Option.bind_eq_some_iff.mp h
  obtain rfl := Option.some.inj h
  have hhistory := history_step hs hstep
  exact hhistory

end Session

-- What the statements of a script define and do not drop is what the store has in the end.
theorem ledger_of_run {around : Surroundings} {statements : List Statement} {s : Store}
    (h : run? around statements = some s) : s.ledger = Ledger.of statements := by
  obtain ⟨session, hrun, rfl⟩ := Option.map_eq_some_iff.mp h
  have hhistory : session.history = statements.foldl History.step (Session.history {}) :=
    foldl_of_foldlM (fun _ _ _ hs h => ⟨Session.Sound.next hs h, Session.history_next hs h⟩)
      Session.sound_start hrun
  exact congrArg History.now hhistory

end TableForge.Store
