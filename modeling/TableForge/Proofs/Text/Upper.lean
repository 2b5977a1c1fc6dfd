import TableForge.Text.Ascii
import TableForge.Text.Upper
import Mathlib.Data.List.Basic

namespace TableForge.Text

theorem toNat_ofNat {n : Nat} (h : n.isValidChar) : (Char.ofNat n).toNat = n := by
  rw [Char.ofNat, dif_pos h]
  rfl

-- The characters of ASCII can be gone through by their numbers.
theorem forall_of_lt {P : Char → Prop} (h : ∀ n < 128, P (Char.ofNat n)) {c : Char}
    (hc : c.toNat < 128) : P c := by
  rw [← Char.ofNat_toNat c]
  exact h c.toNat hc

section Characters

variable {c d : Char}

theorem upperChar_of_lt (hc : c.toNat < 128) : upperChar c = [c.toUpper] := by
  rw [upperChar, if_pos hc]

-- The upper-case form of a character outside ASCII is a listed one, or a character as far away as
-- for all of a range, or the character itself.
theorem upperChar_cases (hc : 128 ≤ c.toNat) :
    (∃ e ∈ upperExpansions, upperChar c = e.2.map Char.ofNat) ∨
      (∃ r ∈ upperRanges, ∃ d, upperChar c = [d] ∧
        (r.1 : Int) + r.2.2.2 ≤ d.toNat ∧ (d.toNat : Int) ≤ r.2.1 + r.2.2.2) ∨
      upperChar c = [c] := by
  have hvalid : ∀ r ∈ upperRanges, 0 ≤ (r.1 : Int) + r.2.2.2 ∧
      ((r.2.1 : Int) + r.2.2.2 < 0xD800 ∨
        0xDFFF < (r.1 : Int) + r.2.2.2 ∧ (r.2.1 : Int) + r.2.2.2 < 0x110000) := by
    decide +kernel
  rw [upperChar, if_neg (by omega)]
  dsimp only
  split
  · rename_i expansion hlookup
    obtain ⟨before, after, hsplit, -⟩ := List.lookup_eq_some_iff.mp hlookup
    exact .inl ⟨(c.toNat, expansion), by simp [hsplit], rfl⟩
  split
  · rename_i low high step delta hfind
    have hmem := List.mem_of_find?_eq_some hfind
    have hwithin := List.find?_some hfind
    simp only [Bool.and_eq_true, decide_eq_true_eq] at hwithin
    obtain ⟨hleast, hgreatest⟩ := hvalid (low, high, step, delta) hmem
    dsimp only at hleast hgreatest
    refine .inr (.inl ⟨(low, high, step, delta), hmem, _, rfl, ?_⟩)
    rw [toNat_ofNat (by rw [Nat.isValidChar]; omega)]
    dsimp only
    omega
  · exact .inr (.inr rfl)

-- What is true of upper-case letters in ASCII, of the listed forms, of whole ranges and of the
-- character itself is true of its upper-case form.
theorem forall_mem_upperChar {P : Char → Prop} (hascii : c.toNat < 128 → P c.toUpper)
    (hexpansions : ∀ e ∈ upperExpansions, ∀ n ∈ e.2, P (Char.ofNat n))
    (hranges : ∀ r ∈ upperRanges, ∀ d : Char, (r.1 : Int) + r.2.2.2 ≤ d.toNat →
      (d.toNat : Int) ≤ r.2.1 + r.2.2.2 → P d)
    (hself : 128 ≤ c.toNat → P c) : ∀ d ∈ upperChar c, P d := by
  rcases Nat.lt_or_ge c.toNat 128 with hsmall | hlarge
  · simpa [upperChar_of_lt hsmall] using hascii hsmall
  rcases upperChar_cases hlarge with ⟨e, he, hform⟩ | ⟨r, hr, d, hform, hlow, hhigh⟩ | hform
  · rw [hform, List.forall_mem_map]
    exact hexpansions e he
  · simpa [hform] using hranges r hr d hlow hhigh
  · simpa [hform] using hself hlarge

-- The upper-case form of a character has nothing in front of the digits that the character is not.
theorem le_toNat_of_mem_upperChar (hc : 0x30 ≤ c.toNat) (hd : d ∈ upperChar c) :
    0x30 ≤ d.toNat := by
  have hranges : ∀ r ∈ upperRanges, 0x30 ≤ (r.1 : Int) + r.2.2.2 := by decide +kernel
  refine forall_mem_upperChar (P := fun d => 0x30 ≤ d.toNat) (fun hsmall => ?_) (by decide +kernel)
    (fun r hr d hlow _ => ?_) (fun _ => hc) d hd
  · exact forall_of_lt (P := fun c => 0x30 ≤ c.toNat → 0x30 ≤ c.toUpper.toNat) (by decide +kernel)
      hsmall hc
  · have h := hranges r hr
    omega

-- There is no lower-case letter of ASCII in it.
theorem not_lower_of_mem_upperChar (hd : d ∈ upperChar c) : d.toNat < 0x61 ∨ 0x7A < d.toNat := by
  have hranges : ∀ r ∈ upperRanges, (r.2.1 : Int) + r.2.2.2 < 0x61 ∨
      0x7A < (r.1 : Int) + r.2.2.2 := by
    decide +kernel
  refine forall_mem_upperChar (P := fun d => d.toNat < 0x61 ∨ 0x7A < d.toNat) ?_ (by decide +kernel)
    (fun r hr d hlow hhigh => ?_) (fun hlarge => by omega) d hd
  · exact forall_of_lt (P := fun c => c.toUpper.toNat < 0x61 ∨ 0x7A < c.toUpper.toNat)
      (by decide +kernel)
  · have h := hranges r hr
    omega

-- A character outside ASCII with an upper-case form that is not the character itself.
def IsWideCased (c : Char) : Prop := isAscii c = false ∧ upperChar c ≠ [c]

theorem map_toLower_upperChar (h : ¬IsWideCased c) :
    (upperChar c).map Char.toLower = [c.toLower] := by
  rcases Nat.lt_or_ge c.toNat 128 with hsmall | hlarge
  · exact forall_of_lt (P := fun c => (upperChar c).map Char.toLower = [c.toLower])
      (by decide +kernel) hsmall
  · have hself : upperChar c = [c] := by
      by_contra hform
      exact h ⟨by simpa [isAscii] using hlarge, hform⟩
    rw [hself, List.map_singleton]

end Characters

-- Only with such a character do texts have one upper-case form that differ in more than the case
-- of their ASCII letters.
theorem sameLetters_of_upper_eq {s t : String} (h : upper s.toList = upper t.toList)
    (hplain : ∀ c ∈ s.toList ++ t.toList, ¬IsWideCased c) : sameLetters s t := by
  have hlower {x : List Char} (hx : ∀ c ∈ x, ¬IsWideCased c) :
      (upper x).map Char.toLower = x.map Char.toLower := by
    rw [upper, List.map_flatMap, List.flatMap_congr fun c hc => map_toLower_upperChar (hx c hc),
      ← List.map_eq_flatMap]
  obtain ⟨hs, ht⟩ := List.forall_mem_append.mp hplain
  rw [sameLetters, beq_iff_eq, ← hlower hs, ← hlower ht, h]

end TableForge.Text
