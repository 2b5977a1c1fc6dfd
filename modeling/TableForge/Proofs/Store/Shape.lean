import TableForge.Store.Change
import TableForge.Store.Sequence
import Mathlib.Data.List.Pairwise

namespace TableForge.Store

-- Every row of every table has one cell for each column.
def Rectangular (s : Store) : Prop :=
  ∀ t ∈ s.tables, ∀ row ∈ t.rows, row.cells.length = t.columns.length

-- The tables without their rows.
def shape (s : Store) : List StoredTable := s.tables.map fun t => { t with rows := [] }

-- The table that is called like a given one has as many columns.
def Fits (s : Store) (t : StoredTable) : Prop :=
  ∀ u ∈ s.tables, u.isSame t → u.columns.length = t.columns.length

-- Only the rows have changed, and every row has still one cell for each column.
structure Kept (s s' : Store) : Prop where
  shape : s'.shape = s.shape
  rectangular : s'.Rectangular
  indices : s'.indices = s.indices
  views : s'.views = s.views

-- No two tables share a name, and those with a name of the store's own are sequence tables.
structure Sound (s : Store) : Prop where
  rectangular : s.Rectangular
  distinct : s.tables.Pairwise fun t u => t.isSame u = false
  own : ∀ t ∈ s.tables, isOwnName t.name → t.columns.length = 2

theorem sameLetters_comm (a b : String) : Text.sameLetters a b = Text.sameLetters b a := by
  rw [Text.sameLetters, Text.sameLetters, Bool.beq_comm]

theorem StoredTable.isSame_comm (t u : StoredTable) : t.isSame u = u.isSame t := by
  rw [isSame, isSame, Bool.beq_comm, sameLetters_comm]

section

variable {s s' : Store} {t : StoredTable}

-- What does not depend on rows is the same for stores of the same shape.
theorem exists_mem_of_shape (h : s'.shape = s.shape) {u : StoredTable} (hu : u ∈ s'.tables) :
    ∃ v ∈ s.tables, v.name = u.name ∧ v.temporary = u.temporary ∧ v.columns = u.columns := by
  have hmem : { u with rows := [] } ∈ s.shape := by
    rw [← h]
    exact List.mem_map_of_mem hu
  obtain ⟨v, hv, heq⟩ := List.mem_map.mp hmem
  simp only [StoredTable.mk.injEq] at heq
  exact ⟨v, hv, heq.1, heq.2.1, heq.2.2.2.1⟩

theorem Fits.of_shape (h : s'.shape = s.shape) (hf : s.Fits t) : s'.Fits t := by
  intro u hu hsame
  obtain ⟨v, hv, hname, htemporary, hcolumns⟩ := exists_mem_of_shape h hu
  rw [← hcolumns]
  apply hf v hv
  rwa [StoredTable.isSame, hname, htemporary]

theorem Sound.eq_of_isSame (h : s.Sound) {u : StoredTable} (hu : u ∈ s.tables)
    (ht : t ∈ s.tables) (hsame : u.isSame t) : u = t := by
  by_contra hne
  have : Std.Symm fun t u : StoredTable => t.isSame u = false :=
    ⟨fun t u h => (StoredTable.isSame_comm u t).trans h⟩
  simp [h.distinct.forall hu ht hne] at hsame

theorem Sound.fits (h : s.Sound) (ht : t ∈ s.tables) : s.Fits t := by
  intro u hu hsame
  rw [h.eq_of_isSame hu ht hsame]

theorem Sound.of_kept (h : s.Sound) (hk : Kept s s') : s'.Sound where
  rectangular := hk.rectangular
  distinct := by
    have hpair (s : Store) : s.tables.Pairwise (fun t u => t.isSame u = false) ↔
        s.shape.Pairwise fun t u => t.isSame u = false := by
      rw [Store.shape, List.pairwise_map]
      rfl
    rw [hpair, hk.shape, ← hpair]
    exact h.distinct
  own := by
    intro t ht hown
    obtain ⟨v, hv, hname, -, hcolumns⟩ := exists_mem_of_shape hk.shape ht
    rw [← hcolumns]
    exact h.own v hv (by rwa [hname])

-- Tables may go, and what is not a table may change.
theorem Sound.of_sublist (h : s.Sound) (ht : s'.tables.Sublist s.tables) : s'.Sound where
  rectangular := fun t hmem => h.rectangular t (ht.subset hmem)
  distinct := h.distinct.sublist ht
  own := fun t hmem => h.own t (ht.subset hmem)

theorem Sound.of_tables (h : s.Sound) (ht : s'.tables = s.tables) : s'.Sound :=
  h.of_sublist (ht ▸ List.Sublist.refl _)

-- A table without rows may come under a name that no other one has.
theorem Sound.append (h : s.Sound) (ht : s'.tables = s.tables ++ [t]) (hrows : t.rows = [])
    (hnew : s.tableIn? t.temporary t.name = none)
    (hown : isOwnName t.name → t.columns.length = 2) : s'.Sound where
  rectangular := by
    intro u hu row hrow
    rcases List.mem_append.mp (ht ▸ hu) with hu | hu
    · exact h.rectangular u hu row hrow
    · rw [List.mem_singleton.mp hu, hrows] at hrow
      simp at hrow
  distinct := by
    rw [ht, List.pairwise_append]
    refine ⟨h.distinct, List.pairwise_singleton _ _, ?_⟩
    intro u hu v hv
    obtain rfl := List.mem_singleton.mp hv
    simpa [StoredTable.isSame] using List.find?_eq_none.mp hnew u hu
  own := by
    intro u hu hname
    rcases List.mem_append.mp (ht ▸ hu) with hu | hu
    · exact h.own u hu hname
    · rw [List.mem_singleton.mp hu] at hname ⊢
      exact hown hname

-- What is found under a name is one of the tables, and has the name.
theorem mem_of_refresh {u : StoredTable} (h : s.refresh? t = some u) :
    u ∈ s.tables ∧ u.isSame t := by
  refine ⟨List.mem_of_find?_eq_some h, ?_⟩
  simpa [StoredTable.isSame] using List.find?_some h

theorem mem_of_object {name : Script.ObjectName} (h : s.object? name = some (.inl t)) :
    t ∈ s.tables := by
  obtain ⟨temporary, -, h⟩ := List.exists_of_findSome?_eq_some h
  split at h
  · rename_i u hu
    obtain rfl := Sum.inl.inj (Option.some.inj h)
    exact List.mem_of_find?_eq_some hu
  · simp at h

theorem Kept.refl (h : s.Rectangular) : Kept s s := ⟨rfl, h, rfl, rfl⟩

theorem Kept.trans {s'' : Store} (h : Kept s s') (h' : Kept s' s'') : Kept s s'' :=
  ⟨h'.shape.trans h.shape, h'.rectangular, h'.indices.trans h.indices, h'.views.trans h.views⟩

-- Other rows in a table do not change the shape.
theorem shape_mapRows (f : List StoredRow → List StoredRow) : (s.mapRows t f).shape = s.shape := by
  simp only [shape, mapRows, List.map_map]
  apply List.map_congr_left
  intro u _
  simp only [Function.comp_apply]
  split <;> rfl

theorem Kept.mapRows (h : s.Rectangular) (hf : s.Fits t) {f : List StoredRow → List StoredRow}
    (hrows : ∀ rows, (∀ row ∈ rows, row.cells.length = t.columns.length) →
      ∀ row ∈ f rows, row.cells.length = t.columns.length) : Kept s (s.mapRows t f) where
  shape := shape_mapRows f
  rectangular := by
    intro u hu row hrow
    obtain ⟨v, hv, rfl⟩ := List.mem_map.mp hu
    split at hrow
    · rename_i hsame
      rw [if_pos hsame]
      have hwidth := hf v hv hsame
      rw [hwidth]
      exact hrows v.rows (fun r hr => (h v hv r hr).trans hwidth) row hrow
    · rename_i hsame
      rw [if_neg hsame]
      exact h v hv row hrow
  indices := rfl
  views := rfl

end

end TableForge.Store
