import TableForge.Marker
import Mathlib.Data.List.Infix
import Mathlib.Logic.Function.Iterate
import Mathlib.Logic.Relation

namespace TableForge.Marker

open Relation (ReflTransGen)

-- A single occurrence of the marker is deleted.
inductive Deletes : List Char → List Char → Prop where
  | mk (front back : List Char) : Deletes (front ++ marker ++ back) (front ++ back)

theorem occursIn_iff {s : List Char} : occursIn s ↔ marker <:+: s := by
  induction s with
  | nil => simp [occursIn, marker]
  | cons c s ih =>
    rw [occursIn, Bool.or_eq_true, ih, List.isPrefixOf_iff_prefix, List.infix_cons_iff]

theorem Deletes.cons {s t : List Char} (c : Char) (h : Deletes s t) :
    Deletes (c :: s) (c :: t) := by
  obtain ⟨front, back⟩ := h
  exact .mk (c :: front) back

-- A pass deletes one occurrence after the other.
theorem deletes_removePass (s : List Char) : ReflTransGen Deletes s (removePass s) := by
  fun_induction removePass s with
  | case1 rest ih => exact .head (.mk [] rest) ih
  | case2 c rest _ ih => exact ih.lift (c :: ·) fun _ _ h => h.cons c
  | case3 => exact .refl

theorem length_removePass_le (s : List Char) : (removePass s).length ≤ s.length := by
  fun_induction removePass s with
  | case1 rest ih =>
    simp only [List.length_cons]
    omega
  | case2 c rest _ ih =>
    simp only [List.length_cons]
    omega
  | case3 => exact Nat.le_refl _

-- A text that does not begin with a marker has one only behind its first character.
theorem infix_cons_iff_of_ne {c : Char} {rest : List Char}
    (h : ∀ more, c = '_' → rest = 't' :: 'r' :: '_' :: more → False) :
    marker <:+: c :: rest ↔ marker <:+: rest := by
  have hstart : ¬marker <+: c :: rest := by
    rintro ⟨more, hmore⟩
    obtain ⟨hc, hrest⟩ := List.cons.inj hmore
    exact h more hc.symm hrest.symm
  rw [List.infix_cons_iff, or_iff_right hstart]

theorem length_removePass_lt {s : List Char} (h : marker <:+: s) :
    (removePass s).length < s.length := by
  fun_induction removePass s with
  | case1 rest _ =>
    have hle := length_removePass_le rest
    simp only [List.length_cons]
    omega
  | case2 c rest hstart ih =>
    have hlt := ih ((infix_cons_iff_of_ne hstart).mp h)
    simp only [List.length_cons]
    omega
  | case3 => simp [marker] at h

-- As many passes as there are characters are enough, since each of them but the last one makes
-- the text shorter.
theorem not_infix_removePasses {n : Nat} {s : List Char} (h : s.length ≤ n) :
    ¬marker <:+: removePasses n s := by
  induction n generalizing s with
  | zero =>
    obtain rfl := List.eq_nil_of_length_eq_zero (Nat.le_zero.mp h)
    simp [removePasses, marker]
  | succ n ih =>
    rw [removePasses]
    split
    · rename_i hoccurs
      have hlt := length_removePass_lt (occursIn_iff.mp hoccurs)
      exact ih (by omega)
    · rename_i hfree
      rwa [← occursIn_iff]

-- The passes are made as long as a marker is left.
theorem exists_removePasses_eq (n : Nat) (s : List Char) :
    ∃ passes, removePasses n s = removePass^[passes] s ∧
      ∀ k < passes, marker <:+: removePass^[k] s := by
  induction n generalizing s with
  | zero => exact ⟨0, rfl, by simp⟩
  | succ n ih =>
    rw [removePasses]
    split
    · rename_i hoccurs
      obtain ⟨passes, heq, hearlier⟩ := ih (removePass s)
      refine ⟨passes + 1, heq, fun k hk => ?_⟩
      cases k with
      | zero => exact occursIn_iff.mp hoccurs
      | succ k => exact hearlier k (by omega)
    · exact ⟨0, rfl, by simp⟩

theorem not_infix_clean (s : List Char) : ¬marker <:+: clean s :=
  not_infix_removePasses (Nat.le_refl s.length)

theorem deletes_clean (s : List Char) : ReflTransGen Deletes s (clean s) := by
  obtain ⟨passes, heq, -⟩ := exists_removePasses_eq s.length s
  rw [clean, heq]
  clear heq
  induction passes with
  | zero => exact .refl
  | succ passes ih =>
    rw [Function.iterate_succ_apply']
    exact ih.trans (deletes_removePass _)

-- Only a text without markers stays as it is.
theorem clean_eq_self_iff {s : List Char} : clean s = s ↔ ¬marker <:+: s := by
  constructor
  · intro h
    rw [← h]
    exact not_infix_clean s
  · intro h
    obtain ⟨passes, heq, hearlier⟩ := exists_removePasses_eq s.length s
    obtain rfl : passes = 0 := by
      by_contra hpasses
      exact h (hearlier 0 (Nat.pos_of_ne_zero hpasses))
    exact heq

end TableForge.Marker
