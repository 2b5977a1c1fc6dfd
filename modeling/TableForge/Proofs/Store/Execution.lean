import TableForge.Proofs.Store.Change
import TableForge.Store.Execution

namespace TableForge.Store

open Script (Conflict Expr ObjectKind ObjectName RowSource Statement)

section Sequence

variable {s : Store} {t : StoredTable}

-- A name that begins like those of the store is one of them.
theorem isOwnName_of_sameLetters {name rest : String}
    (h : Text.sameLetters name (ownNames ++ rest)) : isOwnName name := by
  rw [Text.sameLetters, beq_iff_eq] at h
  rw [isOwnName, Text.sameLetters, beq_iff_eq, String.toList_ofList, List.map_take, h,
    ← List.map_take, String.toList_append, ← String.length_toList, List.take_left']
  rfl

-- The sequence table has two columns wherever it is.
theorem Sound.fits_sequence (h : s.Sound) (temporary : Bool) :
    s.Fits (sequenceTable temporary) := by
  intro u hu hsame
  obtain ⟨-, hname⟩ : u.temporary = temporary ∧ Text.sameLetters u.name sequenceName := by
    simpa [StoredTable.isSame, sequenceTable, ownTable] using hsame
  exact h.own u hu (isOwnName_of_sameLetters hname)

theorem kept_setSequence (h : s.Sound) (n : Int) : Kept s (s.setSequence t n) := by
  refine .mapRows h.rectangular (h.fits_sequence t.temporary) fun rows hrows row hrow => ?_
  split at hrow
  · obtain ⟨r, hr, rfl⟩ := List.mem_map.mp hrow
    split
    · rfl
    · exact hrows r hr
  · rcases List.mem_append.mp hrow with hrow | hrow
    · exact hrows row hrow
    · rw [List.mem_singleton.mp hrow]
      rfl

theorem kept_dropSequence (h : s.Sound) : Kept s (s.dropSequence t) := by
  unfold dropSequence
  split
  · exact .filterRows h.rectangular (h.fits_sequence t.temporary) _
  · exact .refl h.rectangular

theorem Sound.withSequence (h : s.Sound) : (s.withSequence t).Sound := by
  unfold Store.withSequence
  split
  · rename_i hneeded
    have hnew : s.tableIn? t.temporary sequenceName = none := by
      simpa using (Bool.and_eq_true_iff.mp hneeded).2
    exact h.append rfl rfl hnew fun _ => rfl
  · exact h

end Sequence

-- Entries have no part in the tables.
theorem tables_addTableEntries (s : Store) (t : StoredTable) :
    (s.addTableEntries t).tables = s.tables := by
  refine foldl_unchanged (g := tables) ?_ _ _
  rintro s ⟨key, i⟩
  dsimp only
  split <;> rfl

section Definition

variable {s s' : Store}

-- A new table is without rows, under the name and with the text that it was given.
theorem tableOf_eq_some {d : Script.TableDefinition} {t : StoredTable} (h : tableOf? d = some t) :
    newName? d.temporary d.name = some t.temporary ∧ t.name = d.name.name ∧ t.text = d.text ∧
      t.rows = [] := by
  unfold tableOf? at h
  obtain ⟨temporary, htemporary, h⟩ := Option.bind_eq_some_iff.mp h
  obtain ⟨-, h⟩ := some_of_guard h
  obtain ⟨-, h⟩ := some_of_guard h
  obtain ⟨columns, -, h⟩ := Option.bind_eq_some_iff.mp h
  obtain ⟨-, h⟩ := some_of_guard h
  obtain ⟨-, h⟩ := some_of_guard h
  obtain ⟨-, h⟩ := some_of_guard h
  obtain ⟨-, h⟩ := some_of_guard h
  obtain ⟨primaryColumns, -, h⟩ := Option.bind_eq_some_iff.mp h
  obtain ⟨-, h⟩ := some_of_guard h
  obtain ⟨keys, -, h⟩ := Option.bind_eq_some_iff.mp h
  obtain ⟨computed, -, h⟩ := Option.bind_eq_some_iff.mp h
  obtain ⟨-, h⟩ := some_of_guard h
  obtain ⟨uniqueKeys, -, h⟩ := Option.bind_eq_some_iff.mp h
  obtain ⟨checks, -, h⟩ := Option.bind_eq_some_iff.mp h
  obtain ⟨foreignKeys, -, h⟩ := Option.bind_eq_some_iff.mp h
  obtain rfl := Option.some.inj h
  exact ⟨htemporary, rfl, rfl, rfl⟩

theorem isOwnName_of_newName {temporary found : Bool} {name : ObjectName}
    (h : newName? temporary name = some found) : isOwnName name.name = false := by
  unfold newName? at h
  split at h
  · simp at h
  · simpa using ‹¬isOwnName name.name = true›

-- A table is created under a free name, or it is there already.
theorem createTable_cases {d : Script.TableDefinition} (h : createTable? s d = some s') :
    ∃ temporary, newName? d.temporary d.name = some temporary ∧
      (s.isTaken temporary d.name.name ∧ s' = s ∨
        s.isTaken temporary d.name.name = false ∧ s.isFree temporary d.name.name ∧
          ∃ t, tableOf? d = some t ∧ t.temporary = temporary ∧
            s' = withSequence ({ s with tables := s.tables ++ [t] }.addTableEntries t) t) := by
  obtain ⟨temporary, htemporary, h⟩ := Option.bind_eq_some_iff.mp h
  refine ⟨temporary, htemporary, ?_⟩
  simp only at h
  split at h
  · split at h
    · exact .inl ⟨‹_›, (Option.some.inj h).symm⟩
    · simp at h
  · rename_i htaken
    obtain ⟨hfree, h⟩ := some_of_guard h
    obtain ⟨t, ht, h⟩ := Option.bind_eq_some_iff.mp h
    have hsame : t.temporary = temporary :=
      Option.some.inj ((tableOf_eq_some ht).1.symm.trans htemporary)
    exact .inr ⟨by simpa using htaken, by simpa using hfree, t, ht, hsame,
      (Option.some.inj h).symm⟩

theorem createView_cases {d : Script.ViewDefinition} (h : createView? s d = some s') :
    ∃ temporary, newName? d.temporary d.name = some temporary ∧
      (s.isTaken temporary d.name.name ∧ s' = s ∨
        s.isTaken temporary d.name.name = false ∧
          s' = { s.addView temporary d.name.name d.text with
            views := s.views ++ [⟨d.name.name, temporary, d.columns, d.query⟩] }) := by
  obtain ⟨temporary, htemporary, h⟩ := Option.bind_eq_some_iff.mp h
  refine ⟨temporary, htemporary, ?_⟩
  split at h
  · split at h
    · exact .inl ⟨‹_›, (Option.some.inj h).symm⟩
    · simp at h
  · rename_i htaken
    obtain ⟨-, h⟩ := some_of_guard h
    obtain ⟨-, h⟩ := some_of_guard h
    exact .inr ⟨by simpa using htaken, (Option.some.inj h).symm⟩

-- An index is created on a table that a script may change, or it is there already.
theorem createIndex_cases {d : Script.IndexDefinition} (h : createIndex? s d = some s') :
    ∃ t, s.changeable? ⟨d.name.schema, d.table⟩ = some t ∧ isOwnName t.name = false ∧
      ((s.indexIn? t.temporary d.name.name).isSome ∧ s' = s ∨
        s.indexIn? t.temporary d.name.name = none ∧ ∃ i, indexOf? t d = some i ∧
          s' = { s.addEntry t.temporary .index d.name.name t.name (some d.text) with
            indices := s.indices ++ [i] }) := by
  obtain ⟨t, ht, h⟩ := Option.bind_eq_some_iff.mp h
  obtain ⟨hown, h⟩ := some_of_guard h
  obtain ⟨-, h⟩ := some_of_guard h
  refine ⟨t, ht, by simpa using hown, ?_⟩
  split at h
  · split at h
    · exact .inl ⟨‹_›, (Option.some.inj h).symm⟩
    · simp at h
  · rename_i hfound
    obtain ⟨i, hi, h⟩ := Option.bind_eq_some_iff.mp h
    obtain ⟨-, -, h⟩ := Option.bind_eq_some_iff.mp h
    obtain ⟨isUnique, -, h⟩ := Option.bind_eq_some_iff.mp h
    obtain ⟨-, h⟩ := some_of_guard h
    exact .inr ⟨by simpa using hfound, i, hi, (Option.some.inj h).symm⟩

theorem Sound.createTable {d : Script.TableDefinition} (hs : s.Sound)
    (h : createTable? s d = some s') : s'.Sound := by
  obtain ⟨temporary, htemporary, ⟨-, rfl⟩ | ⟨-, hfree, t, ht, rfl, rfl⟩⟩ := createTable_cases h
  · exact hs
  obtain ⟨-, hname, -, hrows⟩ := tableOf_eq_some ht
  have hnew : s.tableIn? t.temporary t.name = none := by
    simp only [isFree, Bool.and_eq_true, Option.isNone_iff_eq_none] at hfree
    rw [hname]
    exact hfree.1.1
  have hown : isOwnName t.name = false := hname ▸ isOwnName_of_newName htemporary
  refine (hs.append (t := t) (tables_addTableEntries _ t) hrows hnew ?_).withSequence
  simp [hown]

theorem Sound.createView {d : Script.ViewDefinition} (hs : s.Sound)
    (h : createView? s d = some s') : s'.Sound := by
  obtain ⟨temporary, -, ⟨-, rfl⟩ | ⟨-, rfl⟩⟩ := createView_cases h
  · exact hs
  · exact hs.of_tables rfl

theorem Sound.createIndex {d : Script.IndexDefinition} (hs : s.Sound)
    (h : createIndex? s d = some s') : s'.Sound := by
  obtain ⟨t, -, -, ⟨-, rfl⟩ | ⟨-, i, -, rfl⟩⟩ := createIndex_cases h
  · exact hs
  · exact hs.of_tables rfl

end Definition

section Rows

variable {p q : Progress} {t : StoredTable} {conflict : Option Conflict}

theorem mem_of_changeable {s : Store} {name : ObjectName} (h : s.changeable? name = some t) :
    t ∈ s.tables := by
  unfold changeable? at h
  split at h
  · rename_i u hu
    obtain rfl := Option.some.inj h
    exact mem_of_object hu
  · simp at h

-- A table goes with its indices. The rows that went before are all that has changed besides.
theorem dropTable_cases (hs : p.store.Sound) (ht : t ∈ p.store.tables)
    (h : dropTable? p t = some q) :
    isOwnName t.name = false ∧ ∃ s, Kept p.store s ∧
      q.store = { s with
        tables := s.tables.filter (!·.isSame t)
        indices := s.indices.filter fun i =>
          !(i.temporary == t.temporary && Text.sameLetters i.table t.name) } := by
  unfold dropTable? at h
  obtain ⟨hown, h⟩ := some_of_guard h
  obtain ⟨-, h⟩ := some_of_guard h
  obtain ⟨cleared, hcleared, h⟩ := some_of_choice h
  obtain ⟨-, h⟩ := some_of_guard h
  obtain rfl := Option.some.inj h
  have hkept : Kept p.store cleared.store := by
    split at hcleared
    · exact (keeps _).removeAll hs (hs.fits ht) hcleared
    · obtain rfl := Option.some.inj hcleared
      exact .refl hs.rectangular
  have hentries : Kept p.store (cleared.store.dropEntries fun e =>
      e.temporary == t.temporary && e.table == t.name) :=
    hkept.trans ⟨rfl, hkept.rectangular, rfl, rfl⟩
  exact ⟨by simpa using hown, _, hentries.trans (kept_dropSequence (hs.of_kept hentries)), rfl⟩

-- What is dropped is what has the name; without it nothing changes.
theorem drop_cases {kind : ObjectKind} {ifExists : Bool} {name : ObjectName}
    (h : drop? p kind ifExists name = some q) :
    match kind with
    | .table => p.store.object? name = none ∧ q = p ∨
        ∃ t, p.store.object? name = some (.inl t) ∧ dropTable? p t = some q
    | .view => p.store.object? name = none ∧ q = p ∨
        ∃ v, p.store.object? name = some (.inr v) ∧
          q.store = { p.store.dropEntries fun e =>
              e.temporary == v.temporary && e.table == v.name with
            views := p.store.views.filter fun u =>
              !(u.temporary == v.temporary && Text.sameLetters u.name v.name) }
    | .index => p.store.index? name = none ∧ q = p ∨
        ∃ i, p.store.index? name = some i ∧
          q.store = { p.store.dropEntries fun e =>
              e.temporary == i.temporary && e.kind = .index && e.name == i.name with
            indices := p.store.indices.filter fun j =>
              !(j.temporary == i.temporary && Text.sameLetters j.name i.name) } := by
  have hmissing (h : (if ifExists then some p else none) = some q) : q = p := by
    split at h
    · exact (Option.some.inj h).symm
    · simp at h
  unfold drop? at h
  cases kind with
  | table =>
    simp only at h
    split at h
    · exact .inr ⟨_, ‹_›, h⟩
    · simp at h
    · exact .inl ⟨‹_›, hmissing h⟩
  | view =>
    simp only at h
    split at h
    · obtain rfl := Option.some.inj h
      exact .inr ⟨_, ‹_›, rfl⟩
    · simp at h
    · exact .inl ⟨‹_›, hmissing h⟩
  | index =>
    simp only at h
    split at h
    · obtain rfl := Option.some.inj h
      exact .inr ⟨_, ‹_›, rfl⟩
    · split at h
      · simp at h
      · exact .inl ⟨‹_›, hmissing h⟩

theorem Sound.drop {kind : ObjectKind} {ifExists : Bool} {name : ObjectName}
    (hs : p.store.Sound) (h : drop? p kind ifExists name = some q) : q.store.Sound := by
  have hcases := drop_cases h
  cases kind with
  | table =>
    obtain ⟨-, rfl⟩ | ⟨t, ht, h⟩ := hcases
    · exact hs
    · obtain ⟨-, s, hkept, hq⟩ := dropTable_cases hs (mem_of_object ht) h
      rw [hq]
      exact (hs.of_kept hkept).of_sublist List.filter_sublist
  | view =>
    obtain ⟨-, rfl⟩ | ⟨v, -, hq⟩ := hcases
    · exact hs
    · rw [hq]
      exact hs.of_tables rfl
  | index =>
    obtain ⟨-, rfl⟩ | ⟨i, -, hq⟩ := hcases
    · exact hs
    · rw [hq]
      exact hs.of_tables rfl

-- A new row is as wide as its table.
theorem length_newCells {o : Occasion} {n : Nat} {given : List (Place × Datum)}
    {cells : List Datum} (h : newCells? o n t given = some cells) :
    cells.length = t.columns.length := by
  rw [← (forall₂_of_mapM h).length_eq, List.length_zipIdx]

@[simp] theorem Progress.store_inserted (p : Progress) (t : StoredTable) (number : Int) :
    (p.inserted t number).store = p.store := by
  unfold inserted
  split <;> rfl

theorem kept_insertRow {used used' : Int} {n : Nat} {given : List (Place × Datum)}
    (hs : p.store.Sound) (h : insertRow? p t conflict used n given = some (q, used')) :
    Kept p.store q.store := by
  obtain ⟨u, hu, h⟩ := Option.bind_eq_some_iff.mp h
  obtain ⟨wanted, -, h⟩ := Option.bind_eq_some_iff.mp h
  extract_lets finish at h
  obtain ⟨number, h⟩ : ∃ number, finish number = some (q, used') := by
    cases wanted with
    | none =>
      obtain ⟨number, -, h⟩ := Option.bind_eq_some_iff.mp h
      exact ⟨number, h⟩
    | some number => exact ⟨number, h⟩
  obtain ⟨cells, hcells, h⟩ := Option.bind_eq_some_iff.mp h
  obtain ⟨outcome, houtcome, h⟩ := Option.bind_eq_some_iff.mp h
  cases outcome with
  | skipped =>
    obtain ⟨rfl, -⟩ := Prod.mk.inj (Option.some.inj h)
    exact .refl hs.rectangular
  | done last =>
    obtain ⟨rfl, -⟩ := Prod.mk.inj (Option.some.inj h)
    rw [Progress.store_inserted]
    exact kept_of_add hs (hs.fits (mem_of_refresh hu).1) (length_newCells hcells) houtcome

theorem kept_insert {name : ObjectName} {columns : Option (List String)} {source : RowSource}
    (hs : p.store.Sound) (h : insert? p conflict name columns source = some q) :
    Kept p.store q.store := by
  obtain ⟨t, -, h⟩ := Option.bind_eq_some_iff.mp h
  obtain ⟨places, -, h⟩ := Option.bind_eq_some_iff.mp h
  extract_lets finish at h
  obtain ⟨rows, h⟩ : ∃ rows, finish rows = some q := by
    cases source with
    | defaults =>
      obtain ⟨rows, -, h⟩ := some_of_choice h
      exact ⟨rows, h⟩
    | values rows =>
      obtain ⟨rows, -, h⟩ := some_of_choice h
      exact ⟨rows, h⟩
  obtain ⟨-, h⟩ := some_of_guard h
  obtain ⟨-, h⟩ := some_of_guard h
  obtain ⟨⟨last, used⟩, hlast, h⟩ := Option.bind_eq_some_iff.mp h
  have hkept : Kept p.store last.store := by
    refine foldlM_invariant (P := fun x : Progress × Int => Kept p.store x.1.store) ?_
      (Kept.refl hs.rectangular) hlast
    rintro ⟨p', used⟩ ⟨row, n⟩ ⟨q', used'⟩ hkept hstep
    obtain ⟨given, -, hrow⟩ := Option.bind_eq_some_iff.mp hstep
    exact hkept.trans (kept_insertRow (hs.of_kept hkept) hrow)
  obtain rfl := Option.some.inj h
  split
  · exact hkept.trans (kept_setSequence (hs.of_kept hkept) used)
  · exact hkept

-- Assigned values take the place of others.
theorem length_assign {o : Occasion} {assignments : List (Place × Expr)} {row row' : StoredRow}
    (h : assign? o t assignments row = some row') : row'.cells.length = row.cells.length := by
  obtain ⟨values, -, h⟩ := Option.bind_eq_some_iff.mp h
  extract_lets cells place at h
  have hcells : cells.length = row.cells.length := by
    refine foldl_unchanged (g := List.length) ?_ values row.cells
    rintro cells ⟨place, d⟩
    cases place with
    | column i => exact List.length_set
    | number => rfl
  split at h
  · obtain rfl := Option.some.inj h
    exact hcells
  · split at h
    · obtain rfl := Option.some.inj h
      exact hcells
    · simp at h

theorem kept_update {name : ObjectName} {assignments : List (String × Expr)}
    {condition : Option Expr} (hs : p.store.Sound)
    (h : update? p conflict name assignments condition = some q) : Kept p.store q.store := by
  obtain ⟨t, ht, h⟩ := Option.bind_eq_some_iff.mp h
  have hfits := hs.fits (mem_of_changeable ht)
  obtain ⟨assignments, -, h⟩ := Option.bind_eq_some_iff.mp h
  obtain ⟨-, h⟩ := some_of_guard h
  obtain ⟨-, h⟩ := some_of_guard h
  obtain ⟨rows, -, h⟩ := Option.bind_eq_some_iff.mp h
  refine foldlM_invariant (P := fun p' : Progress => Kept p.store p'.store) ?_
    (Kept.refl hs.rectangular) h
  intro p' row q' hkept hstep
  have hs' := hs.of_kept hkept
  have hfits' := hfits.of_shape hkept.shape
  split at hstep
  · rename_i current hcurrent
    obtain ⟨assigned, hassigned, hstep⟩ := Option.bind_eq_some_iff.mp hstep
    obtain ⟨outcome, houtcome, hstep⟩ := Option.bind_eq_some_iff.mp hstep
    have hwidth := (length_assign hassigned).trans
      (Progress.length_of_current hs'.rectangular hfits' hcurrent)
    cases outcome with
    | skipped =>
      obtain rfl := Option.some.inj hstep
      exact hkept
    | done last =>
      obtain rfl := Option.some.inj hstep
      exact hkept.trans ((keeps _).overwrite hs' hfits' hwidth houtcome)
  · obtain rfl := Option.some.inj hstep
    exact hkept

theorem kept_delete {name : ObjectName} {condition : Option Expr} (hs : p.store.Sound)
    (h : delete? p name condition = some q) : Kept p.store q.store := by
  obtain ⟨t, ht, h⟩ := Option.bind_eq_some_iff.mp h
  obtain ⟨-, h⟩ := some_of_guard h
  obtain ⟨rows, -, h⟩ := Option.bind_eq_some_iff.mp h
  exact (keeps _).removeAll hs (hs.fits (mem_of_changeable ht)) h

end Rows

namespace Session

-- The store is sound, and so is the one that an open transaction would return to.
structure Sound (session : Session) : Prop where
  store : session.store.Sound
  saved : ∀ s, session.saved = some s → s.Sound

variable {session session' : Session}

theorem Sound.settle {p : Progress} (hs : session.Sound) (hp : p.store.Sound)
    (h : session.settle? p = some session') : session'.Sound := by
  unfold settle? at h
  split at h
  · simp at h
  · obtain rfl := Option.some.inj h
    exact ⟨hp, hs.saved⟩

theorem Sound.define {s : Option Store} (hs : session.Sound) (hnew : ∀ s', s = some s' → s'.Sound)
    (h : session.define? s = some session') : session'.Sound := by
  obtain ⟨s', hs', rfl⟩ := Option.map_eq_some_iff.mp h
  exact ⟨hnew s' hs', hs.saved⟩

-- Each statement keeps the store sound.
theorem Sound.step {o : Occasion} {statement : Statement} (hs : session.Sound)
    (h : session.step? o statement = some session') : session'.Sound := by
  cases statement with
  | createTable d => exact hs.define (fun _ => hs.store.createTable) h
  | createIndex d => exact hs.define (fun _ => hs.store.createIndex) h
  | createView d => exact hs.define (fun _ => hs.store.createView) h
  | drop kind ifExists name =>
    obtain ⟨p, hp, h⟩ := Option.bind_eq_some_iff.mp h
    exact hs.settle (Store.Sound.drop (p := session.start o) hs.store hp) h
  | insert conflict table columns source =>
    obtain ⟨p, hp, h⟩ := Option.bind_eq_some_iff.mp h
    exact hs.settle (hs.store.of_kept (kept_insert (p := session.start o) hs.store hp)) h
  | update conflict table assignments condition =>
    obtain ⟨p, hp, h⟩ := Option.bind_eq_some_iff.mp h
    exact hs.settle (hs.store.of_kept (kept_update (p := session.start o) hs.store hp)) h
  | delete table condition =>
    obtain ⟨p, hp, h⟩ := Option.bind_eq_some_iff.mp h
    exact hs.settle (hs.store.of_kept (kept_delete (p := session.start o) hs.store hp)) h
  | begin =>
    simp only [step?] at h
    split at h
    · simp at h
    · obtain rfl := Option.some.inj h
      exact ⟨hs.store, fun s h => Option.some.inj h ▸ hs.store⟩
  | commit =>
    simp only [step?] at h
    split at h
    · obtain rfl := Option.some.inj h
      exact ⟨hs.store, by simp⟩
    · simp at h
  | rollback =>
    obtain ⟨s, hsaved, rfl⟩ := Option.map_eq_some_iff.mp h
    exact ⟨hs.saved s hsaved, by simp⟩

theorem Sound.next {around : Surroundings} {statement : Statement} (hs : session.Sound)
    (h : session.next? around statement = some session') : session'.Sound := by
  obtain ⟨reached, hstep, h⟩ := Option.bind_eq_some_iff.mp h
  obtain rfl := Option.some.inj h
  exact ⟨(hs.step hstep).store, (hs.step hstep).saved⟩

theorem sound_start : Session.Sound {} where
  store := ⟨by simp [Rectangular], List.Pairwise.nil, by simp⟩
  saved := by simp

end Session

-- Every store that statements make is sound.
theorem sound_of_run {around : Surroundings} {statements : List Statement} {s : Store}
    (h : run? around statements = some s) : s.Sound := by
  obtain ⟨session, hrun, rfl⟩ := Option.map_eq_some_iff.mp h
  exact (foldlM_invariant (fun _ _ _ hs h => Session.Sound.next hs h) Session.sound_start
    hrun).store

end TableForge.Store
