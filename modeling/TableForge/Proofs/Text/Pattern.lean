import TableForge.Text.Ascii
import TableForge.Text.Pattern
import Mathlib.Data.List.Basic

namespace TableForge.Text

open PatternPart (fold)

-- Any text fits a part that stands for any number of characters.
theorem fitOf_anything (s : List Nat) : fitOf [.anything] s = .fits := by
  rw [fitOf]
  induction s with
  | nil => rfl
  | cons c s ih => exact ih

theorem fitOf_anyOne_iff {pattern : List PatternPart} {s : List Nat} :
    fitOf (.anyOne :: pattern) s = .fits ↔ 1 ≤ s.length ∧ fitOf pattern (s.drop 1) = .fits := by
  cases s with
  | nil => simp [fitOf]
  | cons c s => simp [fitOf, PatternPart.fits]

-- A word at the front of a pattern, the case of its letters not counting.
theorem fitOf_word_iff {word : List Nat} {pattern : List PatternPart} {s : List Nat} :
    fitOf (word.map (.exactly · true) ++ pattern) s = .fits ↔
      (s.take word.length).map fold = word.map fold ∧
        fitOf pattern (s.drop word.length) = .fits := by
  induction word generalizing s with
  | nil => simp
  | cons p word ih =>
    cases s with
    | nil => simp [fitOf]
    | cons c s =>
      have hfits : (PatternPart.exactly p true).fits c = true ↔ fold c = fold p := by
        simp only [PatternPart.fits, Bool.true_and, Bool.or_eq_true, decide_eq_true_eq]
        exact ⟨fun h => h.elim (fun h => h ▸ rfl) Eq.symm, fun h => .inr h.symm⟩
      by_cases hc : fold c = fold p
      · simp [fitOf, hfits.mpr hc, ih, hc]
      · simp [fitOf, Bool.eq_false_iff.mpr (fun h => hc (hfits.mp h)), hc]

theorem fold_toNat (c : Char) : fold c.toNat = c.toLower.toNat := by
  have hascii : ∀ n < 128, fold n = (Char.ofNat n).toLower.toNat := by decide +kernel
  by_cases hc : c.toNat < 128
  · rw [hascii c.toNat hc, Char.ofNat_toNat]
  · have hupper : ¬(c.val ≥ 'A'.val ∧ c.val ≤ 'Z'.val) := by
      rintro ⟨-, h⟩
      exact hc (Nat.lt_of_le_of_lt (UInt32.le_iff_toNat_le.mp h) (by decide))
    have hfold : ¬(decide (0x41 ≤ c.toNat) && decide (c.toNat ≤ 0x5A)) = true := by
      simp only [Bool.and_eq_true, decide_eq_true_eq]
      omega
    have hlower : c.toLower = c := dif_neg hupper
    rw [hlower, fold, if_neg hfold]

-- Characters that are the same to a pattern differ at most in the case of ASCII letters.
theorem map_fold_eq_iff {s t : List Char} :
    (s.map Char.toNat).map fold = (t.map Char.toNat).map fold ↔
      sameLetters (String.ofList s) (String.ofList t) := by
  have hlower (s : List Char) :
      (s.map Char.toNat).map fold = (s.map Char.toLower).map Char.toNat := by
    rw [List.map_map, List.map_map]
    exact List.map_congr_left fun c _ => fold_toNat c
  have hinjective : Char.toNat.Injective := fun a b h => Char.ext (UInt32.toNat_inj.mp h)
  rw [hlower, hlower, hinjective.list_map.eq_iff, sameLetters, beq_iff_eq, String.toList_ofList,
    String.toList_ofList]

-- Without an escaping character every character is a part.
theorem likeParts_none_cons (c : Nat) (rest : List Nat) :
    likeParts none (c :: rest) =
      (if c = '%'.toNat then .anything else if c = '_'.toNat then .anyOne else .exactly c true) ::
        likeParts none rest := by
  cases rest with
  | nil => rfl
  | cons d rest => rfl

theorem likeParts_word {word : List Char} (rest : List Nat)
    (h : ∀ c ∈ word, c ≠ '%' ∧ c ≠ '_') :
    likeParts none (word.map Char.toNat ++ rest) =
      (word.map Char.toNat).map (.exactly · true) ++ likeParts none rest := by
  induction word with
  | nil => rfl
  | cons c word ih =>
    obtain ⟨⟨hany, hone⟩, hword⟩ := List.forall_mem_cons.mp h
    have hne {d : Char} (hd : c ≠ d) : c.toNat ≠ d.toNat := fun h =>
      hd (Char.ext (UInt32.toNat_inj.mp h))
    rw [List.map_cons, List.cons_append, likeParts_none_cons, if_neg (hne hany), if_neg (hne hone),
      ih hword]
    rfl

-- What fits a pattern that begins with a word and any one character begins with the word in either
-- case, and has a character behind it.
theorem fitOf_word_anyOne_iff {word : List Char} {rest : List Nat} {s : List Char}
    (h : word.all fun c => c ≠ '%' && c ≠ '_') :
    fitOf (likeParts none (word.map Char.toNat ++ '_'.toNat :: rest)) (s.map Char.toNat) = .fits ↔
      sameLetters (String.ofList (s.take word.length)) (String.ofList word) ∧
        word.length < s.length ∧
        fitOf (likeParts none rest) ((s.drop (word.length + 1)).map Char.toNat) = .fits := by
  have hplain : ∀ c ∈ word, c ≠ '%' ∧ c ≠ '_' := by simpa using h
  have hone : likeParts none ('_'.toNat :: rest) = .anyOne :: likeParts none rest := by
    rw [likeParts_none_cons]
    rfl
  rw [likeParts_word _ hplain, hone, fitOf_word_iff, fitOf_anyOne_iff, List.length_map, ← List.map_take,
    map_fold_eq_iff, List.drop_drop, List.length_drop, List.length_map, List.map_drop]
  have hlength : 1 ≤ s.length - word.length ↔ word.length < s.length := by omega
  rw [hlength]

end TableForge.Text
