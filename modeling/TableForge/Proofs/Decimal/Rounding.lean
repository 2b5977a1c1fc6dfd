import TableForge.Proofs.Decimal.Rank
import Mathlib.Algebra.Order.Ring.Nat
import Mathlib.Tactic.Linarith

-- The double nearest to a quotient.
namespace TableForge.Binary64

-- `num / den` units round to the size of a rank: they lie between the middles to the sizes before
-- and after it, and a middle is for the even one of two ranks.
structure Rounds (num den rank : Nat) : Prop where
  low : (sizeAt (rank - 1) + sizeAt rank) * den ≤ 2 * num
  high : 2 * num ≤ (sizeAt rank + sizeAt (rank + 1)) * den
  lowEven : 2 * num = (sizeAt (rank - 1) + sizeAt rank) * den → rank % 2 = 0
  highEven : 2 * num = (sizeAt rank + sizeAt (rank + 1)) * den → rank % 2 = 0

namespace Rounds

variable {num den rank rank' : Nat}

-- A size rounds to itself.
theorem exact (hden : 0 < den) (h : num = sizeAt rank * den) : Rounds num den rank := by
  have hafter : sizeAt rank < sizeAt (rank + 1) := sizeAt_strictMono (Nat.lt_succ_self rank)
  have hhigh := Nat.mul_lt_mul_of_pos_right hafter hden
  have hbefore : rank = 0 ∨ sizeAt (rank - 1) < sizeAt rank := by
    rcases Nat.eq_zero_or_pos rank with hzero | hpos
    · exact .inl hzero
    · exact .inr (sizeAt_strictMono (Nat.sub_one_lt_of_lt hpos))
  have hlow := Nat.mul_le_mul_right den (sizeAt_strictMono.monotone (Nat.sub_le rank 1))
  constructor
  all_goals rw [Nat.add_mul]
  · omega
  · omega
  · intro heq
    rcases hbefore with rfl | hlt
    · rfl
    · have := Nat.mul_lt_mul_of_pos_right hlt hden
      omega
  · omega

theorem zero (hden : 0 < den) : Rounds (0 * unitsOfOne) den 0 :=
  exact hden (by rw [sizeAt_zero, Nat.zero_mul, Nat.zero_mul])

theorem not_lt (hden : 0 < den) (h : Rounds num den rank) (h' : Rounds num den rank') :
    ¬rank < rank' := by
  intro hlt
  have hbefore : sizeAt rank ≤ sizeAt (rank' - 1) :=
    sizeAt_strictMono.monotone (Nat.le_sub_one_of_lt hlt)
  have hafter : sizeAt (rank + 1) ≤ sizeAt rank' := sizeAt_strictMono.monotone hlt
  -- the quotient is the middle that the two ranks share
  have hmiddle := Nat.mul_le_mul_right den (Nat.add_le_add hbefore hafter)
  have hhigh := (hmiddle.trans h'.low).antisymm h.high
  have hlow := h'.low.antisymm (h.high.trans hmiddle)
  have hsum := Nat.eq_of_mul_eq_mul_right hden (hhigh.trans hlow.symm)
  have hnext : rank + 1 = rank' := sizeAt_strictMono.injective (by omega)
  have heven := h.highEven (by omega)
  have heven' := h'.lowEven (by omega)
  omega

theorem unique (hden : 0 < den) (h : Rounds num den rank) (h' : Rounds num den rank') :
    rank = rank' :=
  (Nat.le_of_not_lt (h'.not_lt hden h)).antisymm (Nat.le_of_not_lt (h.not_lt hden h'))

end Rounds

section Division

variable {num den : Nat}

-- The rounded quotient is off by at most one half, and by one half if it is even.
theorem roundDiv_spec (num : Nat) (hden : 0 < den) :
    2 * (roundDiv num den * den) ≤ 2 * num + den ∧
      2 * num ≤ 2 * (roundDiv num den * den) + den ∧
      (2 * (roundDiv num den * den) = 2 * num + den ∨
        2 * num = 2 * (roundDiv num den * den) + den → roundDiv num den % 2 = 0) := by
  have hnum := Nat.div_add_mod' num den
  have hrest := Nat.mod_lt num hden
  have hsucc := Nat.add_one_mul (num / den) den
  simp only [roundDiv]
  split
  · omega
  · split
    · omega
    · split <;> omega

theorem roundDiv_mul_right {factor : Nat} (h : 0 < factor) :
    roundDiv (num * factor) (den * factor) = roundDiv num den := by
  have hdouble : 2 * (num % den * factor) = 2 * (num % den) * factor := by ring
  simp only [roundDiv, Nat.mul_div_mul_right _ _ h, Nat.mul_mod_mul_right, hdouble,
    Nat.mul_lt_mul_right h]

-- The quotient in units of a scale, with powers that are not cut off.
theorem scaled_eq (num den scale : Nat) :
    num * twoTo (1074 - scale) * 2 ^ min 1074 scale = num * unitsOfOne ∧
      den * twoTo (scale - 1074) * 2 ^ min 1074 scale = den * 2 ^ scale := by
  have hup : 1074 - scale + min 1074 scale = 1074 := by omega
  have hdown : scale - 1074 + min 1074 scale = scale := by omega
  constructor
  · rw [unitsOfOne, twoTo_eq, Nat.mul_assoc, ← pow_add, hup]
  · rw [twoTo_eq, Nat.mul_assoc, ← pow_add, hdown]

theorem roundAt_eq (scale : Nat) :
    roundAt num den scale = roundDiv (num * unitsOfOne) (den * 2 ^ scale) := by
  obtain ⟨hnum, hden⟩ := scaled_eq num den scale
  rw [roundAt, ← hnum, ← hden, roundDiv_mul_right (Nat.two_pow_pos _)]

theorem div_scaled_eq (scale : Nat) :
    num * twoTo (1074 - scale) / (den * twoTo (scale - 1074)) =
      num * unitsOfOne / (den * 2 ^ scale) := by
  obtain ⟨hnum, hden⟩ := scaled_eq num den scale
  rw [← hnum, ← hden, Nat.mul_div_mul_right _ _ (Nat.two_pow_pos _)]

-- The first guess at the scale leaves fifty-three or fifty-four bits, or is the least scale.
theorem guess_spec (hnum : 0 < num) (hden : 0 < den) :
    num * unitsOfOne < 4 * exponentWeight * (den * 2 ^ (num.log2 + 1021 - den.log2)) ∧
      (num.log2 + 1021 - den.log2 = 0 ∨
        exponentWeight * (den * 2 ^ (num.log2 + 1021 - den.log2)) ≤ num * unitsOfOne) := by
  have hnumLow : 2 ^ num.log2 ≤ num := Nat.log2_self_le hnum.ne'
  have hnumHigh : num < 2 ^ (num.log2 + 1) := Nat.lt_log2_self
  have hdenLow : 2 ^ den.log2 ≤ den := Nat.log2_self_le hden.ne'
  have hdenHigh : den < 2 ^ (den.log2 + 1) := Nat.lt_log2_self
  have hbits : 2 ^ 54 = 4 * exponentWeight := rfl
  have hbits' : 2 ^ 52 = exponentWeight := rfl
  generalize hguess : num.log2 + 1021 - den.log2 = guess
  constructor
  · calc num * unitsOfOne < 2 ^ (num.log2 + 1) * 2 ^ 1074 :=
          Nat.mul_lt_mul_of_pos_right hnumHigh unitsOfOne_pos
      _ = 2 ^ (num.log2 + 1 + 1074) := (pow_add 2 _ _).symm
      _ ≤ 2 ^ (54 + (den.log2 + guess)) := Nat.pow_le_pow_right Nat.two_pos (by omega)
      _ = 4 * exponentWeight * (2 ^ den.log2 * 2 ^ guess) := by rw [pow_add, pow_add, hbits]
      _ ≤ 4 * exponentWeight * (den * 2 ^ guess) :=
          Nat.mul_le_mul_left _ (Nat.mul_le_mul_right _ hdenLow)
  · rw [or_iff_not_imp_left]
    intro hpos
    calc exponentWeight * (den * 2 ^ guess)
        ≤ exponentWeight * (2 ^ (den.log2 + 1) * 2 ^ guess) :=
          Nat.mul_le_mul_left _ (Nat.mul_le_mul_right _ hdenHigh.le)
      _ = 2 ^ (52 + (den.log2 + 1 + guess)) := by rw [pow_add 2 52, pow_add _ _ guess, hbits']
      _ = 2 ^ (num.log2 + 1074) := congrArg _ (by omega)
      _ = 2 ^ num.log2 * 2 ^ 1074 := pow_add 2 _ _
      _ ≤ num * unitsOfOne := Nat.mul_le_mul_right _ hnumLow

-- The scale leaves at most fifty-three bits before the point, and all of them but for the least
-- scale.
theorem scaleFor_spec (hnum : 0 < num) (hden : 0 < den) :
    num * unitsOfOne < 2 * exponentWeight * (den * 2 ^ scaleFor num den) ∧
      (scaleFor num den = 0 ∨
        exponentWeight * (den * 2 ^ scaleFor num den) ≤ num * unitsOfOne) := by
  obtain ⟨hhigh, hlow⟩ := guess_spec hnum hden
  simp only [scaleFor, div_scaled_eq]
  generalize num.log2 + 1021 - den.log2 = guess at *
  have hunit : 0 < den * 2 ^ guess := Nat.mul_pos hden (Nat.two_pow_pos _)
  split
  · rename_i hfew
    exact ⟨(Nat.div_lt_iff_lt_mul hunit).mp hfew, hlow⟩
  · rename_i hmany
    have hmore := (Nat.le_div_iff_mul_le hunit).mp (Nat.le_of_not_lt hmany)
    have hnext : den * 2 ^ (guess + 1) = 2 * (den * 2 ^ guess) := by ring
    rw [hnext]
    constructor
    · calc num * unitsOfOne < 4 * exponentWeight * (den * 2 ^ guess) := hhigh
        _ = 2 * exponentWeight * (2 * (den * 2 ^ guess)) := by ring
    · refine .inr (le_of_eq_of_le ?_ hmore)
      ring

-- A quotient rounds to a size from which it is off by at most half a unit of the scale, and by half
-- a unit if the significand is even.
theorem rounds_of_near {significand scale : Nat} (hden : 0 < den)
    (hshort : significand ≤ 2 * exponentWeight) (hlong : scale = 0 ∨ exponentWeight ≤ significand)
    (hfirst : scale = 0 ∨ exponentWeight * (den * 2 ^ scale) ≤ num)
    (hlow : 2 * (significand * (den * 2 ^ scale)) ≤ 2 * num + den * 2 ^ scale)
    (hhigh : 2 * num ≤ 2 * (significand * (den * 2 ^ scale)) + den * 2 ^ scale)
    (heven : 2 * (significand * (den * 2 ^ scale)) = 2 * num + den * 2 ^ scale ∨
      2 * num = 2 * (significand * (den * 2 ^ scale)) + den * 2 ^ scale → significand % 2 = 0) :
    Rounds num den (scale * exponentWeight + significand) := by
  have hparity : (scale * exponentWeight + significand) % 2 = significand % 2 := by
    simp only [exponentWeight]
    omega
  have hsize : sizeAt (scale * exponentWeight + significand) * den =
      significand * (den * 2 ^ scale) := by
    rw [sizeAt_of_le hshort hlong]
    ring
  have hbefore : (sizeAt (scale * exponentWeight + significand - 1) +
        sizeAt (scale * exponentWeight + significand)) * den ≤ 2 * num ∧
      (2 * num = (sizeAt (scale * exponentWeight + significand - 1) +
        sizeAt (scale * exponentWeight + significand)) * den → significand % 2 = 0) := by
    rw [Nat.add_mul, hsize]
    by_cases hregular : scale = 0 ∧ 0 < significand ∨ exponentWeight < significand
    · have hbefore := congrArg (· * den) (sizeAt_eq_pred_add hshort hregular)
      simp only [hsize, Nat.add_mul, Nat.mul_comm (2 ^ scale)] at hbefore
      omega
    · rcases Nat.eq_zero_or_pos significand with rfl | hpos
      · obtain rfl : scale = 0 := hlong.resolve_right (by decide)
        simp [sizeAt_zero]
      -- below the first significand of a scale the units are finer
      · obtain rfl : significand = exponentWeight := by omega
        have hfiner : sizeAt (scale * exponentWeight + exponentWeight - 1) * den <
            sizeAt (scale * exponentWeight + exponentWeight) * den :=
          Nat.mul_lt_mul_of_pos_right
            (sizeAt_strictMono (Nat.sub_one_lt_of_lt (Nat.add_pos_right _ hpos))) hden
        omega
  have hafter := Nat.mul_le_mul_right den (sizeAt_succ_ge hlong)
  rw [Nat.add_mul, hsize, Nat.mul_comm (2 ^ scale)] at hafter
  refine ⟨hbefore.1, ?_, hparity ▸ hbefore.2, ?_⟩
  all_goals
    rw [Nat.add_mul, hsize]
    omega

-- A quotient rounds to what its rounded size spells.
theorem rounds_scaleFor (hnum : 0 < num) (hden : 0 < den) :
    Rounds (num * unitsOfOne) den
      (scaleFor num den * exponentWeight + roundAt num den (scaleFor num den)) := by
  obtain ⟨hshort, hlong⟩ := scaleFor_spec hnum hden
  have hunit : 0 < den * 2 ^ scaleFor num den := Nat.mul_pos hden (Nat.two_pow_pos _)
  obtain ⟨hlow, hhigh, heven⟩ := roundDiv_spec (num * unitsOfOne) hunit
  rw [← roundAt_eq] at hlow hhigh heven
  generalize scaleFor num den = scale at *
  generalize roundAt num den scale = significand at *
  refine rounds_of_near hden ?_ ?_ hlong hlow hhigh heven
  · by_contra hmore
    have := Nat.mul_le_mul_right (den * 2 ^ scale) (Nat.lt_of_not_le hmore)
    rw [Nat.succ_mul] at this
    omega
  · refine hlong.imp_right fun hlong => ?_
    by_contra hless
    have := Nat.mul_le_mul_right (den * 2 ^ scale) (Nat.succ_le_of_lt (Nat.lt_of_not_le hless))
    rw [Nat.succ_mul] at this
    omega

theorem exists_rounds (num : Nat) (hden : 0 < den) :
    ∃ rank, Rounds (num * unitsOfOne) den rank := by
  rcases Nat.eq_zero_or_pos num with rfl | hnum
  · exact ⟨0, .zero hden⟩
  · exact ⟨_, rounds_scaleFor hnum hden⟩

-- The double that is made of a quotient has the rank that the quotient rounds to, if that is one.
theorem ofQuotient_of_rounds {negative : Bool} {rank : Nat} (hden : 0 < den)
    (h : Rounds (num * unitsOfOne) den rank) :
    ofQuotient negative num den =
      if 2047 * exponentWeight ≤ rank then infinity negative else ofRank negative rank := by
  rw [ofQuotient]
  split
  · rename_i hnum
    subst hnum
    rw [h.unique hden (.zero hden), if_neg (by decide)]
    cases negative <;> rfl
  · rename_i hnum
    have hsize := (rounds_scaleFor (Nat.pos_of_ne_zero hnum) hden).unique hden h
    simp only [hsize, ofRank]

theorem ofQuotient_eq_iff {x : Binary64} (hfinite : x.isFinite = true) (hden : 0 < den) :
    ofQuotient x.negative num den = x ↔ Rounds (num * unitsOfOne) den x.rank := by
  constructor
  · intro hread
    obtain ⟨rank, h⟩ := exists_rounds num hden
    rw [ofQuotient_of_rounds hden h] at hread
    split at hread
    · rw [← hread] at hfinite
      cases hnegative : x.negative
      all_goals
        rw [hnegative] at hfinite
        exact absurd hfinite (by decide)
    · rename_i hrank
      have hsign : rank < signWeight := (Nat.lt_of_not_le hrank).trans (by decide)
      rwa [← rank_ofRank hsign, hread] at h
  · intro h
    have hrank := Nat.not_le_of_lt (x.isFinite_iff.mp hfinite)
    rw [ofQuotient_of_rounds hden h, if_neg hrank, ofRank_rank]

end Division

end TableForge.Binary64
