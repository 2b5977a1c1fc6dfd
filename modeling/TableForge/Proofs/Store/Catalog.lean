import TableForge.Proofs.Store.Ledger
import TableForge.Proofs.Store.Listing
import TableForge.Proofs.Text.Pattern
import TableForge.Proofs.Text.Utf8

namespace TableForge.Store

open Script (Statement)

-- The name begins with the word in either case, and any character at all stands behind it.
def BeginsLike (word : String) (name : List Char) : Prop :=
  Text.sameLetters (String.ofList (name.take word.toList.length)) word ∧
    word.toList.length < name.length

instance (word : String) (name : List Char) : Decidable (BeginsLike word name) :=
  inferInstanceAs (Decidable (_ ∧ _))

-- What a list of tables leaves out. The store's own names have an underscore behind the word; that
-- another character stands there makes no difference.
def HidesTable (name : String) : Prop := BeginsLike "sqlite" name.toList

-- What a list of indices leaves out.
def HidesIndex (name : String) : Prop :=
  BeginsLike "sqlite" name.toList ∧ BeginsLike "autoindex" (name.toList.drop 7)

section Hidden

open Text (like)

variable {name : String}

theorem like_hiddenTables_iff : like hiddenTables name ↔ HidesTable name := by
  have hpattern : hiddenTables.toList.map Char.toNat =
      "sqlite".toList.map Char.toNat ++ '_'.toNat :: ['%'.toNat] := by decide +kernel
  have hrest : Text.likeParts none ['%'.toNat] = [.anything] := by decide +kernel
  rw [like, Text.fits, decide_eq_true_iff, hpattern, Text.fitOf_word_anyOne_iff (by decide), hrest]
  simp [Text.fitOf_anything, HidesTable, BeginsLike]

theorem like_hiddenIndices_iff : like hiddenIndices name ↔ HidesIndex name := by
  have hpattern : hiddenIndices.toList.map Char.toNat = "sqlite".toList.map Char.toNat ++
      '_'.toNat :: ("autoindex".toList.map Char.toNat ++ '_'.toNat :: ['%'.toNat]) := by
    decide +kernel
  have hrest : Text.likeParts none ['%'.toNat] = [.anything] := by decide +kernel
  rw [like, Text.fits, decide_eq_true_iff, hpattern, Text.fitOf_word_anyOne_iff (by decide),
    Text.fitOf_word_anyOne_iff (by decide), hrest]
  simp [Text.fitOf_anything, HidesIndex, BeginsLike, and_assoc]

-- The store's own names are hidden.
theorem hidesTable_of_isOwnName (h : isOwnName name) : HidesTable name := by
  rw [isOwnName, Text.sameLetters, beq_iff_eq, String.toList_ofList] at h
  have hword := congrArg (List.take 6) h
  rw [← List.map_take, List.take_take] at hword
  have hlength := congrArg List.length h
  rw [List.length_map, List.length_take] at hlength
  have hseven : ownNames.length = 7 ∧ (ownNames.toList.map Char.toLower).length = 7 := by
    decide +kernel
  refine ⟨?_, ?_⟩
  · rw [Text.sameLetters, beq_iff_eq, String.toList_ofList]
    rw [hseven.1] at hword
    exact hword
  · change 6 < name.toList.length
    omega

end Hidden

-- A list has exactly what is wanted, once each and in the order of the bytes of the names.
structure Lists {α : Type} (name : α → String) (found : List α) (wanted : α → Prop) : Prop where
  ascending : found.Pairwise fun a b => Text.Utf8.encode (name a) < Text.Utf8.encode (name b)
  mem_iff : ∀ a, a ∈ found ↔ wanted a

-- What of a list is shown, sorted by names that differ.
theorem lists_byName {α β : Type} (name : β → String) {f : α → β} {shown : List α}
    {wanted : β → Prop} (hdiffer : shown.Pairwise fun a b => name (f a) ≠ name (f b))
    (hwanted : ∀ b, (∃ a ∈ shown, f a = b) ↔ wanted b) :
    Lists name ((byName (fun a => name (f a)) shown).map f) wanted where
  ascending := by
    have hsorted : (byName (fun a => name (f a)) shown).Pairwise fun a b =>
        name (f a) ≤ name (f b) := by
      refine (List.pairwise_mergeSort ?_ ?_ shown).imp (by simp)
      · intro a b c hab hbc
        exact decide_eq_true (String.le_trans (of_decide_eq_true hab) (of_decide_eq_true hbc))
      · intro a b
        simpa using String.le_total (name (f a)) (name (f b))
    have hdistinct : (byName (fun a => name (f a)) shown).Pairwise fun a b =>
        name (f a) ≠ name (f b) :=
      (List.mergeSort_perm shown _).symm.pairwise hdiffer Ne.symm
    exact List.pairwise_map.mpr (hsorted.imp₂
      (fun a b hle hne => Text.Utf8.encode_lt_encode (Std.lt_of_le_of_ne hle hne)) hdistinct)
  mem_iff := fun b => by simp [byName, ← hwanted]

-- A table that lasts, by its name and its definition.
def Ledger.HasTable (l : Ledger) (found : String × String) : Prop :=
  ⟨⟨false, found.1⟩, found.2⟩ ∈ l.tables

-- An index on a table that lasts.
def Ledger.HasIndex (l : Ledger) (table : String) (found : Index) : Prop :=
  ⟨⟨false, found.name⟩, table, found.definition⟩ ∈ l.indices

-- The catalog has all tables of a ledger that last, and for each of them all its indices.
structure ListsAll (s : Store) (l : Ledger) : Prop where
  tables : Lists (·.1) s.listTables l.HasTable
  indices : ∀ t ∈ l.tables, t.temporary = false →
    Lists (·.name) (s.listIndices t.name) (l.HasIndex t.name)

-- The catalog has them as far as their names are not hidden.
structure ListsUnhidden (s : Store) (l : Ledger) : Prop where
  tables : Lists (·.1) s.listTables fun found => l.HasTable found ∧ ¬HidesTable found.1
  indices : ∀ t ∈ l.tables, t.temporary = false →
    Lists (·.name) (s.listIndices t.name) fun found =>
      l.HasIndex t.name found ∧ ¬HidesIndex found.name

section Listed

variable {s : Store}

theorem lists_listTables (hs : s.Sound) :
    Lists (·.1) s.listTables fun found => s.ledger.HasTable found ∧ ¬HidesTable found.1 := by
  have hshown (t : StoredTable) :
      t ∈ s.tables.filter (fun t => !t.temporary && !Text.like hiddenTables t.name) ↔
        t ∈ s.tables ∧ t.temporary = false ∧ ¬HidesTable t.name := by
    simp only [List.mem_filter, Bool.and_eq_true, Bool.not_eq_true', ← like_hiddenTables_iff,
      Bool.not_eq_true]
  refine lists_byName _ ?_ ?_
  · refine hs.pairwise_shown.imp ?_
    intro t u hne (heq : t.name = u.name)
    simp [heq, Text.sameLetters] at hne
  rintro ⟨name, text⟩
  constructor
  · rintro ⟨t, hlisted, heq⟩
    obtain ⟨rfl, rfl⟩ := Prod.mk.inj heq
    obtain ⟨ht, hlasts, hunhidden⟩ := (hshown t).mp hlisted
    refine ⟨List.mem_map.mpr ⟨t, List.mem_filter.mpr ⟨ht, ?_⟩, ?_⟩, hunhidden⟩
    · simpa using mt hidesTable_of_isOwnName hunhidden
    · rw [StoredTable.entry, hlasts]
  · rintro ⟨hdefined, hunhidden⟩
    obtain ⟨t, ht, heq⟩ := List.mem_map.mp hdefined
    simp only [StoredTable.entry, DefinedTable.mk.injEq, Label.mk.injEq] at heq
    obtain ⟨⟨hlasts, rfl⟩, rfl⟩ := heq
    exact ⟨t, (hshown t).mpr ⟨List.mem_of_mem_filter ht, hlasts, hunhidden⟩, rfl⟩

theorem lists_listIndices (hl : s.ledger.Consistent) (table : String) :
    Lists (·.name) (s.listIndices table) fun found =>
      s.ledger.HasIndex table found ∧ ¬HidesIndex found.name := by
  have hshown (i : StoredIndex) :
      i ∈ s.indices.filter (fun i =>
        !i.temporary && i.table == table && !Text.like hiddenIndices i.name) ↔
        i ∈ s.indices ∧ i.temporary = false ∧ i.table = table ∧ ¬HidesIndex i.name := by
    simp only [List.mem_filter, Bool.and_eq_true, Bool.not_eq_true', beq_iff_eq,
      ← like_hiddenIndices_iff, Bool.not_eq_true, and_assoc]
  refine lists_byName Index.name ?_ ?_
  · refine ((List.pairwise_map.mp hl.differ).sublist List.filter_sublist).imp_of_mem ?_
    intro i j hi hj hne (heq : i.name = j.name)
    obtain ⟨-, htemporary, -⟩ := (hshown i).mp hi
    obtain ⟨-, htemporary', -⟩ := (hshown j).mp hj
    simp [StoredIndex.entry, Label.isCalled, htemporary, htemporary', heq, Text.sameLetters] at hne
  rintro ⟨name, definition⟩
  constructor
  · rintro ⟨i, hlisted, heq⟩
    obtain ⟨rfl, rfl⟩ := (TableForge.Index.mk.injEq ..).mp heq
    obtain ⟨hi, hlasts, htable, hunhidden⟩ := (hshown i).mp hlisted
    refine ⟨List.mem_map.mpr ⟨i, hi, ?_⟩, hunhidden⟩
    rw [StoredIndex.entry, hlasts, htable]
  · rintro ⟨hdefined, hunhidden⟩
    obtain ⟨i, hi, heq⟩ := List.mem_map.mp hdefined
    simp only [StoredIndex.entry, DefinedIndex.mk.injEq, Label.mk.injEq] at heq
    obtain ⟨⟨hlasts, hname⟩, htable, htext⟩ := heq
    exact ⟨i, (hshown i).mpr ⟨hi, hlasts, htable, hname ▸ hunhidden⟩, by rw [hname, htext]⟩

theorem listsUnhidden_ledger (hs : s.Sound) (hl : s.ledger.Consistent) :
    s.ListsUnhidden s.ledger where
  tables := lists_listTables hs
  indices := fun t _ _ => lists_listIndices hl t.name

-- A list without what is hidden has all that is wanted when nothing of it is hidden.
theorem Lists.all_iff {α : Type} {name : α → String} {found : List α} {wanted hidden : α → Prop}
    (h : Lists name found fun a => wanted a ∧ ¬hidden a) :
    Lists name found wanted ↔ ∀ a, wanted a → ¬hidden a := by
  constructor
  · intro hall a ha
    exact ((h.mem_iff a).mp ((hall.mem_iff a).mpr ha)).2
  · intro hnone
    refine ⟨h.ascending, fun a => (h.mem_iff a).trans ?_⟩
    exact ⟨And.left, fun ha => ⟨ha, hnone a ha⟩⟩

theorem ListsUnhidden.listsAll_iff {l : Ledger} (h : s.ListsUnhidden l) (hl : l.Consistent) :
    s.ListsAll l ↔ (∀ t ∈ l.tables, t.temporary = false → ¬HidesTable t.name) ∧
      ∀ i ∈ l.indices, i.temporary = false → ¬HidesIndex i.name := by
  constructor
  · intro hall
    constructor
    · rintro ⟨⟨temporary, name⟩, text⟩ ht rfl
      exact h.tables.all_iff.mp hall.tables (name, text) ht
    · rintro ⟨⟨temporary, name⟩, table, text⟩ hi rfl
      obtain ⟨t, ht, hlasts, rfl⟩ := hl.owned _ hi
      exact (h.indices t ht hlasts).all_iff.mp (hall.indices t ht hlasts) ⟨name, text⟩ hi
  · rintro ⟨htables, hindices⟩
    constructor
    · exact h.tables.all_iff.mpr fun (name, text) ht => htables ⟨⟨false, name⟩, text⟩ ht rfl
    · intro t ht hlasts
      refine (h.indices t ht hlasts).all_iff.mpr fun found hi => ?_
      exact hindices ⟨⟨false, found.name⟩, t.name, found.definition⟩ hi rfl

end Listed

theorem ledger_of_load {script : String} {around : Surroundings} {s : Store}
    (h : load script around = .ok s) :
    ∃ statements, Statement.ofScript? script = some statements ∧
      s.ledger = Ledger.of statements := by
  unfold load at h
  split at h
  · rename_i found hfound
    obtain rfl := Except.ok.inj h
    obtain ⟨statements, hread, hrun⟩ := Option.bind_eq_some_iff.mp hfound
    exact ⟨statements, hread, ledger_of_run hrun⟩
  · simp at h

-- Of what a script defines and does not drop the catalog lists exactly what lasts and is not
-- hidden. So it lists all of it exactly if no name is hidden.
theorem lists_unhidden_of_load {script : String} {around : Surroundings} {s : Store}
    (h : load script around = .ok s) :
    ∃ statements, Statement.ofScript? script = some statements ∧
      s.ListsUnhidden (Ledger.of statements) ∧
      (s.ListsAll (Ledger.of statements) ↔
        (∀ t ∈ (Ledger.of statements).tables, t.temporary = false → ¬HidesTable t.name) ∧
          ∀ i ∈ (Ledger.of statements).indices, i.temporary = false → ¬HidesIndex i.name) := by
  obtain ⟨statements, hread, hledger⟩ := ledger_of_load h
  have hl := Ledger.consistent_of statements
  have hlists := listsUnhidden_ledger (sound_of_load h) (hledger ▸ hl)
  rw [hledger] at hlists
  exact ⟨statements, hread, hlists, hlists.listsAll_iff hl⟩

-- A name that only the seventh character tells from those of the store itself.
theorem lists_unhidden_of_capital :
    let definition := "CREATE TABLE sqliteX(ID INTEGER PRIMARY KEY)"
    ∃ s, load (definition ++ ";") = .ok s ∧ s.listTables = [] ∧
      ∃ statements, Statement.ofScript? (definition ++ ";") = some statements ∧
        (Ledger.of statements).tables = [⟨⟨false, "sqliteX"⟩, definition⟩] ∧
        s.ListsUnhidden (Ledger.of statements) ∧ ¬s.ListsAll (Ledger.of statements) := by
  intro definition
  have hrun : (load (definition ++ ";")).toOption.map (·.listTables) = some [] := by
    decide +kernel
  have hdefined : (Statement.ofScript? (definition ++ ";")).map
      (fun statements => (Ledger.of statements).tables) =
      some [⟨⟨false, "sqliteX"⟩, definition⟩] := by
    decide +kernel
  have hhidden : HidesTable "sqliteX" := by
    rw [HidesTable]
    decide +kernel
  obtain ⟨s, hs, hlist⟩ := Option.map_eq_some_iff.mp hrun
  have hload := eq_ok_of_toOption hs
  obtain ⟨statements, hread, hlists, hall⟩ := lists_unhidden_of_load hload
  rw [hread, Option.map_some, Option.some.injEq] at hdefined
  refine ⟨s, hload, hlist, statements, hread, hdefined, hlists, fun hlistsAll => ?_⟩
  have hshown := (hall.mp hlistsAll).1
  rw [hdefined] at hshown
  exact hshown ⟨⟨false, "sqliteX"⟩, definition⟩ (List.mem_singleton_self _) rfl hhidden

end TableForge.Store
