import TableForge.Proofs.Text.Utf8
import TableForge.Table.Naming
import Mathlib.Data.List.Pairwise
import Mathlib.Data.String.Basic

namespace TableForge.Naming

variable {entries left right : List (String × String)} {key name value : String}

-- The keys are in the order of their bytes, so that none is there twice.
def IsOrdered (entries : List (String × String)) : Prop :=
  entries.Pairwise fun a b => Text.Utf8.encode a.1 < Text.Utf8.encode b.1

theorem isOrdered_iff : IsOrdered entries ↔ entries.Pairwise fun a b => a.1 < b.1 := by
  simp only [IsOrdered, Text.Utf8.encode_lt_encode_iff]

-- One comparison tells on which side of an entry a key is.
theorem lookup_around (h : IsOrdered (left ++ (name, value) :: right)) :
    (left ++ (name, value) :: right).lookup key =
      if key < name then left.lookup key
      else if key = name then some value else right.lookup key := by
  obtain ⟨-, hright, hleft⟩ := List.pairwise_append.mp (isOrdered_iff.mp h)
  rw [List.pairwise_cons] at hright
  have hnone {part : List (String × String)} (hpart : ∀ e ∈ part, key ≠ e.1) :
      part.lookup key = none :=
    List.lookup_eq_none_iff.mpr fun e he => by simpa using hpart e he
  rw [List.lookup_append]
  split_ifs with hless hsame
  · have hbehind : ∀ e ∈ (name, value) :: right, key ≠ e.1 := by
      rw [List.forall_mem_cons]
      exact ⟨hless.ne, fun e he => (hless.trans (hright.1 e he)).ne⟩
    rw [hnone hbehind, Option.or_none]
  · have hbefore : ∀ e ∈ left, key ≠ e.1 := fun e he =>
      hsame ▸ (hleft e he _ List.mem_cons_self).ne'
    rw [hnone hbefore, Option.none_or, hsame, List.lookup_cons_self]
  · have hgreater : name < key := lt_of_le_of_ne (not_lt.mp hless) (Ne.symm hsame)
    have hbefore : ∀ e ∈ left, key ≠ e.1 := fun e he =>
      ((hleft e he _ List.mem_cons_self).trans hgreater).ne'
    rw [hnone hbefore, Option.none_or, List.lookup_cons, beq_eq_false_iff_ne.mpr hsame]

-- Halving keeps the entry of a key among those that are left, if there is one. The induction is on
-- the fuel, of which there is always more than entries.
theorem searchWithin_eq_lookup {fuel : Nat} (h : IsOrdered entries)
    (hfuel : entries.length < fuel) : searchWithin fuel entries key = entries.lookup key := by
  induction fuel generalizing entries with
  | zero => omega
  | succ fuel ih =>
    rw [searchWithin]
    split
    · rename_i hdrop
      have hempty : entries.length ≤ entries.length / 2 := List.drop_eq_nil_iff.mp hdrop
      have hnil : entries = [] := List.length_eq_zero_iff.mp (by omega)
      rw [hnil, List.lookup_nil]
    rename_i name value right hdrop
    have hsplit : entries = entries.take (entries.length / 2) ++ (name, value) :: right := by
      rw [← hdrop, List.take_append_drop]
    have hlength := congrArg List.length hsplit
    rw [List.length_append, List.length_cons] at hlength
    generalize entries.take (entries.length / 2) = left at hsplit hlength
    subst hsplit
    have hleft : searchWithin fuel left key = left.lookup key :=
      ih (h.sublist (List.sublist_append_left _ _)) (by omega)
    have hright : searchWithin fuel right key = right.lookup key :=
      ih (h.sublist ((List.sublist_cons_self _ _).trans (List.sublist_append_right _ _)))
        (by omega)
    rw [lookup_around h, hleft, hright]

-- In ordered entries the search finds what is found by going through all of them.
theorem search?_eq_lookup (h : IsOrdered entries) (key : String) :
    search? entries key = entries.lookup key :=
  searchWithin_eq_lookup h (Nat.lt_succ_self _)

theorem isOrdered_overrides : IsOrdered overrides :=
  isOrdered_iff.mpr (by decide +kernel)

-- The overrides are ordered, and so the class names of a table begin with what stands beside its
-- name in the first entry that has it, or with its name and an underscore if none has it.
theorem classBase_eq_scan (table : String) :
    IsOrdered overrides ∧ classBase table = (overrides.lookup table).getD (table ++ "_") := by
  refine ⟨isOrdered_overrides, ?_⟩
  rw [classBase, search?_eq_lookup isOrdered_overrides]

-- The underscore comes behind all capital letters.
example : classBase "STOCKHISTORY_V1" = "StockHistory" ∧ classBase "STOCK_V1" = "Stock" ∧
    classBase "STOCK" = "STOCK_" := by
  decide +kernel

end TableForge.Naming
