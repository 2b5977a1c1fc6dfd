import TableForge.Proofs.Text.Upper
import TableForge.Table.Field
import TableForge.Table.Naming
import TableForge.Text.Word
import Mathlib.Data.List.Basic

namespace TableForge

namespace Text

-- The text has nothing but letters, digits and underscores.
def IsWord (s : String) : Prop := ∀ c ∈ s.toList, isWordChar c = true

instance (s : String) : Decidable (IsWord s) :=
  List.decidableBAll (fun c => isWordChar c = true) s.toList

theorem not_mem_of_isWord {s : String} {c : Char} (h : IsWord s) (hc : isWordChar c = false) :
    c ∉ s.toList := by
  intro hmem
  rw [h c hmem] at hc
  cases hc

-- Letters, digits and the underscore come behind the punctuation of the seven-bit range.
theorem le_toNat_of_isWordChar {c : Char} (h : isWordChar c = true) : 0x30 ≤ c.toNat := by
  have hranges : ∀ r ∈ alphanumericRanges, 0x30 ≤ r.1 := by decide +kernel
  simp only [isWordChar, Bool.or_eq_true, decide_eq_true_eq, isAlphanumeric, List.any_eq_true,
    Bool.and_eq_true] at h
  rcases h with rfl | ⟨r, hr, hlow, -⟩
  · decide
  · exact Nat.le_trans (hranges r hr) hlow

theorem isWord_append {s t : String} : IsWord (s ++ t) ↔ IsWord s ∧ IsWord t := by
  simp only [IsWord, String.toList_append, List.mem_append]
  exact ⟨fun h => ⟨fun c hc => h c (.inl hc), fun c hc => h c (.inr hc)⟩,
    fun h c hc => hc.elim (h.1 c) (h.2 c)⟩

end Text

namespace Naming

-- What is found stands in the entries under the key.
theorem mem_of_searchWithin {fuel : Nat} {entries : List (String × String)} {key value : String}
    (h : searchWithin fuel entries key = some value) : (key, value) ∈ entries := by
  induction fuel generalizing entries with
  | zero => simp [searchWithin] at h
  | succ fuel ih =>
    rw [searchWithin] at h
    split at h
    · simp at h
    rename_i name found right hdrop
    have hmem : ∀ e ∈ (name, found) :: right, e ∈ entries := fun e he =>
      List.mem_of_mem_drop (hdrop ▸ he)
    split at h
    · exact List.mem_of_mem_take (ih h)
    split at h
    · rename_i hkey
      obtain rfl := Option.some.inj h
      exact hmem _ (hkey ▸ List.mem_cons_self)
    · exact hmem _ (List.mem_cons_of_mem _ (ih h))

-- What the characters of a table's name and of the overrides have in common is true of its classes.
theorem forall_mem_classBase {P : Char → Prop} {table : String} (h : ∀ c ∈ table.toList, P c)
    (hunderscore : P '_') (hoverrides : ∀ e ∈ overrides, ∀ c ∈ e.2.toList, P c) :
    ∀ c ∈ (classBase table).toList, P c := by
  rw [classBase]
  cases hsearch : search? overrides table with
  | none =>
    intro c hc
    rw [Option.getD_none, String.toList_append, List.mem_append] at hc
    rcases hc with hc | hc
    · exact h c hc
    · obtain rfl : c = '_' := by simpa using hc
      exact hunderscore
  | some value => exact hoverrides _ (mem_of_searchWithin hsearch)

-- Class names of a table whose name is a word begin with a word.
theorem isWord_classBase {table : String} (h : Text.IsWord table) :
    Text.IsWord (classBase table) := by
  have hvalues : ∀ e ∈ overrides, Text.IsWord e.2 := by decide +kernel
  exact forall_mem_classBase h (by decide) hvalues

end Naming

-- The constant of a column whose name is a word has no blank and no line feed.
theorem Field.le_toNat_of_mem_columnId {f : Field} (h : Text.IsWord f.name) {c : Char}
    (hc : c ∈ f.columnId.toList) : 0x30 ≤ c.toNat := by
  have hhead : "COL_ID_".toList.all (0x30 ≤ ·.toNat) := by decide
  rw [Field.columnId, String.toList_append, List.mem_append] at hc
  rcases hc with hc | hc
  · simpa using List.all_eq_true.mp hhead c hc
  · rw [String.toList_ofList, Text.upper, List.mem_flatMap] at hc
    obtain ⟨d, hd, hc⟩ := hc
    exact Text.le_toNat_of_mem_upperChar (Text.le_toNat_of_isWordChar (h d hd)) hc

end TableForge
