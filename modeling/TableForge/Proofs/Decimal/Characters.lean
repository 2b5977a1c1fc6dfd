import TableForge.Decimal.Notation

namespace TableForge

-- A character that the text of a number can have.
def isNumeral (c : Char) : Bool := c.isDigit || ['-', '.', 'i', 'n', 'f', 'N', 'a'].contains c

theorem isNumeral_of_mem_toDigits {n : Nat} {c : Char} (h : c ∈ Nat.toDigits 10 n) :
    isNumeral c := by
  have hdigit : c.isDigit = true := Nat.isDigit_of_mem_toDigits (by decide) (by decide) h
  rw [isNumeral, hdigit, Bool.true_or]

theorem isNumeral_of_mem_int {i : Int} {c : Char} (h : c ∈ (toString i).toList) : isNumeral c := by
  rw [Int.toString_eq_repr, Int.repr_eq_if] at h
  split at h
  · rw [Nat.toList_repr] at h
    exact isNumeral_of_mem_toDigits h
  · rw [String.toList_append, Nat.toList_repr, List.mem_append] at h
    rcases h with h | h
    · obtain rfl : c = '-' := by simpa using h
      decide
    · exact isNumeral_of_mem_toDigits h

namespace Binary64

theorem isNumeral_of_mem_positional {k : Nat} {p : Int} {c : Char} (h : c ∈ positional k p) :
    isNumeral c := by
  have hzeros {n : Nat} (hc : c ∈ List.replicate n '0') : isNumeral c := by
    obtain rfl := List.eq_of_mem_replicate hc
    decide
  have hpadded {n : Nat} (hc : c ∈ List.replicate n '0' ++ Nat.toDigits 10 k) : isNumeral c :=
    (List.mem_append.mp hc).elim hzeros isNumeral_of_mem_toDigits
  simp only [positional] at h
  split at h
  · exact (List.mem_append.mp h).elim isNumeral_of_mem_toDigits hzeros
  · simp only [List.mem_append, List.mem_cons] at h
    rcases h with h | rfl | h
    · exact hpadded (List.mem_of_mem_take h)
    · decide
    · exact hpadded (List.mem_of_mem_drop h)

theorem isNumeral_of_mem_text {x : Binary64} {c : Char} (h : c ∈ x.text.toList) :
    isNumeral c := by
  have hfixed {s : List Char} (hs : s.all isNumeral) (hc : c ∈ s) : isNumeral c :=
    List.all_eq_true.mp hs c hc
  have hsize (hc : c ∈ if !x.isFinite then ['i', 'n', 'f']
      else if x.isIntegral then positional (x.numerator / x.denominator * 10) (-1)
      else positional x.shortest.1 x.shortest.2) : isNumeral c := by
    split at hc
    · exact hfixed (by decide) hc
    · split at hc
      · exact isNumeral_of_mem_positional hc
      · exact isNumeral_of_mem_positional hc
  rw [text, String.toList_ofList, render] at h
  split at h
  · exact hfixed (by decide) h
  · simp only at h
    split at h
    · rcases List.mem_cons.mp h with rfl | h
      · decide
      · exact hsize h
    · exact hsize h

end Binary64

end TableForge
