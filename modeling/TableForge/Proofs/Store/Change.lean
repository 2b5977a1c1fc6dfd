import TableForge.Proofs.Computation
import TableForge.Proofs.Store.Shape

namespace TableForge.Store

open Script (Conflict)

-- What a row becomes on its way into a table has still one cell for each column.
section Cells

variable {t : StoredTable} {row row' : StoredRow}

theorem length_compute (h : t.compute? row = some row') :
    row'.cells.length = row.cells.length := by
  obtain ⟨order, -, h⟩ := Option.bind_eq_some_iff.mp h
  refine foldlM_invariant (P := fun r : StoredRow => r.cells.length = row.cells.length) ?_ rfl h
  rintro r ⟨i, e⟩ r' hr hstep
  obtain ⟨d, -, hstep⟩ := Option.bind_eq_some_iff.mp hstep
  obtain rfl := Option.some.inj hstep
  simpa using hr

theorem length_stored (h : t.stored? row = some row')
    (hrow : row.cells.length = t.columns.length) : row'.cells.length = t.columns.length := by
  obtain ⟨r, hr, h⟩ := Option.bind_eq_some_iff.mp h
  simp only at h
  split at h
  · simp at h
  · obtain rfl := Option.some.inj h
    rw [length_compute hr]
    simp [hrow]

theorem length_numbered : (t.numbered row).cells.length = row.cells.length := by
  unfold StoredTable.numbered
  split <;> simp

theorem length_withForeign (key : ForeignKey) (values : List Datum) :
    (withForeign key values row).cells.length = row.cells.length := by
  refine foldl_unchanged (g := List.length) ?_ (key.columns.zip values) row.cells
  rintro cells ⟨i, d⟩
  exact List.length_set

-- A default for a missing value takes the place of that value.
theorem length_checkPresence {o : Occasion} {override : Option Conflict}
    (h : checkPresence? o t override row = some (.replaced row')) :
    row'.cells.length = row.cells.length := by
  unfold checkPresence? at h
  have hkept := foldlM_invariant
    (P := fun v : Verdict => ∀ r, v = .replaced r → r.cells.length = row.cells.length) ?_ ?_ h
  · exact hkept row' rfl
  · rintro verdict ⟨c, i⟩ next hverdict hstep r rfl
    dsimp -zeta only at hstep
    extract_lets current at hstep
    have hcurrent : current.cells.length = row.cells.length := by
      cases verdict with
      | replaced last => exact hverdict last rfl
      | kept => rfl
      | skipped => rfl
    split at hstep
    · simp at hstep
    · exact hverdict r (Option.some.inj hstep)
    split at hstep
    · exact hverdict r (Option.some.inj hstep)
    split at hstep
    · simp at hstep
    · obtain ⟨d, -, hstep⟩ := Option.bind_eq_some_iff.mp hstep
      obtain ⟨-, hstep⟩ := some_of_guard hstep
      obtain rfl := Verdict.replaced.inj (Option.some.inj hstep)
      rw [List.length_set, hcurrent]
    · simp at hstep
  · rintro r ⟨⟩

end Cells

namespace Progress

variable {p : Progress} {t : StoredTable}

theorem store_mapRows (f : List StoredRow → List StoredRow) :
    (p.mapRows t f).store = p.store.mapRows t f := rfl

-- Counting references leaves the store as it is.
@[simp] theorem store_count (key : ForeignKey) (n : Int) : (p.count key n).store = p.store := by
  unfold count
  split <;> rfl

@[simp] theorem store_enterChild (child : StoredTable) (key : ForeignKey) (row : StoredRow) :
    (p.enterChild child key row).store = p.store := by
  unfold enterChild
  split
  · split
    · rfl
    split
    · rfl
    · simp
  · rfl

@[simp] theorem store_leaveChild (child : StoredTable) (key : ForeignKey) (row : StoredRow) :
    (p.leaveChild child key row).store = p.store := by
  unfold leaveChild
  split
  · rfl
  split
  · simp
  split
  · rfl
  split
  · rfl
  · simp

@[simp] theorem store_enterParent (child : StoredTable) (key : ForeignKey) (row : StoredRow) :
    (p.enterParent t child key row).store = p.store := by
  unfold enterParent
  split
  · rfl
  · simp

@[simp] theorem store_leaveParent (child : StoredTable) (key : ForeignKey) (row : StoredRow) :
    (p.leaveParent t child key row).store = p.store := by
  simp [leaveParent]

@[simp] theorem store_leave (c : RowChange) (row : StoredRow) :
    (p.leave t c row).store = p.store := by
  unfold leave
  rw [foldl_unchanged (g := store) (by simp), foldl_unchanged (g := store) (by simp)]

@[simp] theorem store_enter (c : RowChange) (row : StoredRow) :
    (p.enter t c row).store = p.store := by
  unfold enter
  rw [foldl_unchanged (g := store) (by simp), foldl_unchanged (g := store) (by simp)]

-- A row of a table as it is now has one cell for each column.
theorem length_of_mem_rows (hs : p.store.Rectangular) (ht : p.store.Fits t) {row : StoredRow}
    (hrow : row ∈ p.rows t) : row.cells.length = t.columns.length := by
  unfold rows at hrow
  cases hfound : p.store.refresh? t with
  | none => simp [hfound] at hrow
  | some u =>
    obtain ⟨hmem, hsame⟩ := mem_of_refresh hfound
    rw [hfound] at hrow
    rw [hs u hmem row hrow, ht u hmem hsame]

theorem length_of_current (hs : p.store.Rectangular) (ht : p.store.Fits t) {row row' : StoredRow}
    (h : p.current? t row = some row') : row'.cells.length = t.columns.length :=
  length_of_mem_rows hs ht (List.mem_of_find?_eq_some h)

end Progress

-- A row may always go, and come if it is as wide as its table.
theorem Kept.filterRows {s : Store} {t : StoredTable} (hs : s.Rectangular) (ht : s.Fits t)
    (keep : StoredRow → Bool) : Kept s (s.mapRows t fun rows => rows.filter keep) :=
  .mapRows hs ht fun _ hrows row hrow => hrows row (List.mem_of_mem_filter hrow)

theorem Kept.appendRow {s : Store} {t : StoredTable} (hs : s.Rectangular) (ht : s.Fits t)
    {row : StoredRow} (hrow : row.cells.length = t.columns.length) :
    Kept s (s.mapRows t (· ++ [row])) := by
  refine .mapRows hs ht fun rows hrows r hr => ?_
  rcases List.mem_append.mp hr with hr | hr
  · exact hrows r hr
  · rwa [List.mem_singleton.mp hr]

theorem mem_of_mem_checkedChildKeys {s : Store} {t : StoredTable} {c : RowChange}
    {child : StoredTable × ForeignKey} (h : child ∈ s.checkedChildKeys t c) :
    child.1 ∈ s.tables := by
  obtain ⟨u, hu, h⟩ := List.mem_flatMap.mp (List.mem_of_mem_filter h)
  split at h
  · simp at h
  · obtain ⟨key, -, rfl⟩ := List.mem_map.mp h
    exact List.mem_reverse.mp hu

-- What a change of rows does to a store with a given amount of fuel: it keeps all but the rows,
-- and a row that goes into a table is as wide as the table.
structure Keeps (fuel : Nat) : Prop where
  remove : ∀ {p q : Progress} {t : StoredTable} {row : StoredRow},
    p.store.Sound → p.store.Fits t → remove fuel p t row = some q → Kept p.store q.store
  follow : ∀ {p q : Progress} {t : StoredTable} {c : RowChange} {old : StoredRow}
    {new : Option StoredRow} {children : List (StoredTable × ForeignKey)},
    p.store.Sound → (∀ child ∈ children, p.store.Fits child.1) →
      follow fuel p t c old new children = some q → Kept p.store q.store
  removeAll : ∀ {p q : Progress} {t : StoredTable} {rows : List StoredRow},
    p.store.Sound → p.store.Fits t → removeAll fuel p t rows = some q → Kept p.store q.store
  reassign : ∀ {p q : Progress} {t : StoredTable} {key : ForeignKey} {values : List Datum}
    {rows : List StoredRow},
    p.store.Sound → p.store.Fits t → reassign fuel p t key values rows = some q →
      Kept p.store q.store
  makeWay : ∀ {p q : Progress} {t : StoredTable} {override : Option Conflict}
    {old : Option StoredRow} {row stored : StoredRow},
    p.store.Sound → p.store.Fits t → row.cells.length = t.columns.length →
      makeWay fuel p t override old row = some (some (stored, q)) →
      Kept p.store q.store ∧ stored.cells.length = t.columns.length
  overwrite : ∀ {p q : Progress} {t : StoredTable} {c : RowChange} {override : Option Conflict}
    {old row : StoredRow},
    p.store.Sound → p.store.Fits t → row.cells.length = t.columns.length →
      overwrite fuel p t c override old row = some (.done q) → Kept p.store q.store

namespace Keeps

variable {fuel : Nat} {p q : Progress} {t : StoredTable} {c : RowChange}
  {override : Option Conflict} {row : StoredRow}

theorem remove_succ (ih : Keeps fuel) (hs : p.store.Sound) (ht : p.store.Fits t)
    (h : Store.remove (fuel + 1) p t row = some q) : Kept p.store q.store := by
  simp only [Store.remove] at h
  have hgone : Kept p.store
      ((p.leave t (.removal t) row).mapRows t fun rows => rows.filter (· ≠ row)).store := by
    simpa [Progress.store_mapRows] using Kept.filterRows hs.rectangular ht _
  have hs' := hs.of_kept hgone
  exact hgone.trans (ih.follow hs' (fun _ h => hs'.fits (mem_of_mem_checkedChildKeys h)) h)

theorem follow_succ (ih : Keeps fuel) {old : StoredRow} {new : Option StoredRow}
    {children : List (StoredTable × ForeignKey)} (hs : p.store.Sound)
    (hfit : ∀ child ∈ children, p.store.Fits child.1)
    (h : Store.follow (fuel + 1) p t c old new children = some q) : Kept p.store q.store := by
  cases children with
  | nil =>
    obtain rfl := Option.some.inj h
    exact .refl hs.rectangular
  | cons first more =>
    obtain ⟨child, key⟩ := first
    have hchild := hfit _ List.mem_cons_self
    -- the other foreign keys follow after any step that keeps all but the rows
    have hrest {step : Progress} (hkept : Kept p.store step.store)
        (h : Store.follow fuel step t c old new more = some q) : Kept p.store q.store := by
      have hfit' : ∀ child ∈ more, step.store.Fits child.1 :=
        fun child hmem => (hfit child (List.mem_cons_of_mem _ hmem)).of_shape hkept.shape
      exact hkept.trans (ih.follow (hs.of_kept hkept) hfit' h)
    have hsame := hrest (Kept.refl hs.rectangular)
    simp only [Store.follow] at h
    split at h
    · exact hsame h
    split at h
    · exact hsame h
    split at h
    · exact hsame h
    · split at h
      · exact hsame h
      · simp at h
    · split at h
      · obtain ⟨step, hstep, h⟩ := Option.bind_eq_some_iff.mp h
        exact hrest (ih.removeAll hs hchild hstep) h
      · obtain ⟨step, hstep, h⟩ := Option.bind_eq_some_iff.mp h
        exact hrest (ih.reassign hs hchild hstep) h
    · obtain ⟨step, hstep, h⟩ := Option.bind_eq_some_iff.mp h
      exact hrest (ih.reassign hs hchild hstep) h
    · split at h
      · exact hsame h
      · obtain ⟨values, -, h⟩ := Option.bind_eq_some_iff.mp h
        obtain ⟨step, hstep, h⟩ := Option.bind_eq_some_iff.mp h
        exact hrest (ih.reassign hs hchild hstep) h

theorem removeAll_succ (ih : Keeps fuel) {rows : List StoredRow} (hs : p.store.Sound)
    (ht : p.store.Fits t) (h : Store.removeAll (fuel + 1) p t rows = some q) :
    Kept p.store q.store := by
  cases rows with
  | nil =>
    obtain rfl := Option.some.inj h
    exact .refl hs.rectangular
  | cons first rest =>
    simp only [Store.removeAll] at h
    split at h
    · obtain ⟨step, hstep, h⟩ := Option.bind_eq_some_iff.mp h
      have hkept := ih.remove hs ht hstep
      exact hkept.trans (ih.removeAll (hs.of_kept hkept) (ht.of_shape hkept.shape) h)
    · exact ih.removeAll hs ht h

theorem reassign_succ (ih : Keeps fuel) {key : ForeignKey} {values : List Datum}
    {rows : List StoredRow} (hs : p.store.Sound) (ht : p.store.Fits t)
    (h : Store.reassign (fuel + 1) p t key values rows = some q) : Kept p.store q.store := by
  cases rows with
  | nil =>
    obtain rfl := Option.some.inj h
    exact .refl hs.rectangular
  | cons first rest =>
    simp only [Store.reassign] at h
    split at h
    · exact ih.reassign hs ht h
    · rename_i current hcurrent
      obtain ⟨outcome, houtcome, h⟩ := Option.bind_eq_some_iff.mp h
      cases outcome with
      | skipped => simp at h
      | done step =>
        have hwidth : (withForeign key values current).cells.length = t.columns.length := by
          rw [length_withForeign]
          exact Progress.length_of_current hs.rectangular ht hcurrent
        have hkept := ih.overwrite hs ht hwidth houtcome
        exact hkept.trans (ih.reassign (hs.of_kept hkept) (ht.of_shape hkept.shape) h)

theorem makeWay_succ (ih : Keeps fuel) {old : Option StoredRow} {stored : StoredRow}
    (hs : p.store.Sound) (ht : p.store.Fits t) (hrow : row.cells.length = t.columns.length)
    (h : Store.makeWay (fuel + 1) p t override old row = some (some (stored, q))) :
    Kept p.store q.store ∧ stored.cells.length = t.columns.length := by
  rw [Store.makeWay] at h
  obtain ⟨first, hfirst, h⟩ := Option.bind_eq_some_iff.mp h
  have hwidth := length_stored hfirst (length_numbered.trans hrow)
  obtain ⟨verdict, hverdict, h⟩ := Option.bind_eq_some_iff.mp h
  extract_lets refuse others finish at h
  -- what is to be stored is as wide as the table, whichever way a missing value is resolved
  obtain ⟨final, hfinal, h⟩ : ∃ final : StoredRow, final.cells.length = t.columns.length ∧
      finish (some final) = some (some (stored, q)) := by
    cases verdict with
    | kept => exact ⟨first, hwidth, h⟩
    | skipped => simp [finish] at h
    | replaced row' =>
      obtain ⟨found, hfound, h⟩ := Option.bind_eq_some_iff.mp h
      obtain ⟨second, hsecond, rfl⟩ := Option.map_eq_some_iff.mp hfound
      have hreplaced := (length_checkPresence hverdict).trans hwidth
      exact ⟨second, length_stored hsecond hreplaced, h⟩
  obtain ⟨holds, -, h⟩ := Option.bind_eq_some_iff.mp h
  split at h
  · split at h <;> simp [refuse] at h
  obtain ⟨found, -, h⟩ := Option.bind_eq_some_iff.mp h
  obtain ⟨doomed, -, h⟩ := Option.bind_eq_some_iff.mp h
  split at h
  · obtain ⟨last, hlast, h⟩ := Option.bind_eq_some_iff.mp h
    obtain ⟨rfl, rfl⟩ := Prod.mk.inj (Option.some.inj (Option.some.inj h))
    exact ⟨ih.removeAll hs ht hlast, hfinal⟩
  · simp at h

theorem overwrite_succ (ih : Keeps fuel) {old : StoredRow} (hs : p.store.Sound)
    (ht : p.store.Fits t) (hrow : row.cells.length = t.columns.length)
    (h : Store.overwrite (fuel + 1) p t c override old row = some (.done q)) :
    Kept p.store q.store := by
  simp only [Store.overwrite] at h
  obtain ⟨way, hway, h⟩ := Option.bind_eq_some_iff.mp h
  split at h
  · rename_i stored cleared
    obtain ⟨hcleared, hwidth⟩ := ih.makeWay hs ht hrow hway
    have hs' := hs.of_kept hcleared
    have ht' := ht.of_shape hcleared.shape
    split at h
    · obtain rfl := Outcome.done.inj (Option.some.inj h)
      exact hcleared
    · obtain ⟨last, hlast, h⟩ := Option.bind_eq_some_iff.mp h
      obtain rfl := Outcome.done.inj (Option.some.inj h)
      have hgone := Kept.filterRows hs'.rectangular ht' fun r => decide (r ≠ old)
      have hput : Kept cleared.store
          ((((cleared.leave t c old).mapRows t fun rows => rows.filter (· ≠ old)).enter t c
            stored).mapRows t (· ++ [stored])).store := by
        simpa [Progress.store_mapRows] using hgone.trans
          (.appendRow (hs'.of_kept hgone).rectangular (ht'.of_shape hgone.shape) hwidth)
      have hs'' := hs'.of_kept hput
      have hfollow := ih.follow hs'' (fun _ h => hs''.fits (mem_of_mem_checkedChildKeys h)) hlast
      exact hcleared.trans (hput.trans hfollow)
  · simp at h

end Keeps

-- Without fuel there is no result, and each function spends a unit on those that it calls.
theorem keeps (fuel : Nat) : Keeps fuel := by
  induction fuel with
  | zero =>
    constructor <;> intros <;>
      simp_all [remove, follow, removeAll, reassign, makeWay, overwrite]
  | succ fuel ih =>
    exact ⟨ih.remove_succ, ih.follow_succ, ih.removeAll_succ, ih.reassign_succ, ih.makeWay_succ,
      ih.overwrite_succ⟩

-- A new row leaves everything but the rows as it is.
theorem kept_of_add {fuel : Nat} {p q : Progress} {t : StoredTable} {override : Option Conflict}
    {row : StoredRow} (hs : p.store.Sound) (ht : p.store.Fits t)
    (hrow : row.cells.length = t.columns.length)
    (h : add fuel p t override row = some (.done q)) : Kept p.store q.store := by
  obtain ⟨way, hway, h⟩ := Option.bind_eq_some_iff.mp h
  split at h
  · rename_i stored cleared
    obtain ⟨hcleared, hwidth⟩ := (keeps fuel).makeWay hs ht hrow hway
    obtain rfl := Outcome.done.inj (Option.some.inj h)
    have hput : Kept cleared.store
        ((cleared.enter t (.removal t) stored).mapRows t (· ++ [stored])).store := by
      simpa [Progress.store_mapRows] using
        Kept.appendRow (hs.of_kept hcleared).rectangular (ht.of_shape hcleared.shape) hwidth
    exact hcleared.trans hput
  · simp at h

end TableForge.Store
