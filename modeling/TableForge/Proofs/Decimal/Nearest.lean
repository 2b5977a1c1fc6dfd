import TableForge.Decimal.Arithmetic
import TableForge.Proofs.Decimal.Rounding
import Mathlib.Algebra.Order.Field.Basic
import Mathlib.Algebra.Order.Field.Rat
import Mathlib.Tactic.FieldSimp
import Mathlib.Tactic.Positivity

-- Rounding as the standard of the doubles has it, over the rational numbers.
namespace TableForge.Binary64

-- The number that a finite double is.
def value (x : Binary64) : ℚ := x.signedNumerator / x.denominator

-- The finite double is one of those nearest to a number, and has an even significand if another one
-- is as near. From half a unit above the largest double on there is no such double.
structure NearestEven (q : ℚ) (x : Binary64) : Prop where
  finite : x.isFinite = true
  inRange : |q| < 2 ^ 1024 - 2 ^ 970
  nearest : ∀ y : Binary64, y.isFinite = true → |q - x.value| ≤ |q - y.value|
  even : ∀ y : Binary64, y.isFinite = true → y.value ≠ x.value →
    |q - y.value| = |q - x.value| → x.significand % 2 = 0

section Distance

variable {q a b : ℚ}

-- Of two numbers the smaller one is nearer up to their middle.
theorem abs_sub_le_iff_of_lt (h : a < b) : |q - a| ≤ |q - b| ↔ 2 * q ≤ a + b := by
  rcases abs_cases (q - a) with ha | ha <;> rcases abs_cases (q - b) with hb | hb <;>
    constructor <;> intro <;> linarith

theorem abs_sub_ge_iff_of_lt (h : a < b) : |q - b| ≤ |q - a| ↔ a + b ≤ 2 * q := by
  rcases abs_cases (q - a) with ha | ha <;> rcases abs_cases (q - b) with hb | hb <;>
    constructor <;> intro <;> linarith

theorem abs_sub_div (hunit : 0 < b) : |q - a / b| = |q * b - a| / b := by
  rw [← abs_of_pos hunit, ← abs_div, abs_of_pos hunit, sub_div, mul_div_cancel_right₀ _ hunit.ne']

end Distance

namespace Rounds

variable {num den rank : Nat}

-- The bounds of the rounded quotient without its denominator.
theorem bounds (hden : 0 < den) (h : Rounds num den rank) :
    (sizeAt (rank - 1) + sizeAt rank : ℚ) ≤ 2 * (num / den) ∧
      2 * (num / den) ≤ (sizeAt rank + sizeAt (rank + 1) : ℚ) ∧
      ((2 * (num / den) : ℚ) = sizeAt (rank - 1) + sizeAt rank ∨
        (2 * (num / den) : ℚ) = sizeAt rank + sizeAt (rank + 1) → rank % 2 = 0) := by
  have hden' : (0 : ℚ) < den := Nat.cast_pos.mpr hden
  obtain ⟨hlow, hhigh, hlowEven, hhighEven⟩ := h
  rw [mul_div_assoc', le_div_iff₀ hden', div_le_iff₀ hden', div_eq_iff hden'.ne',
    div_eq_iff hden'.ne']
  norm_cast
  exact ⟨hlow, hhigh, fun heq => heq.elim hlowEven hhighEven⟩

-- No other size is nearer. One that is as near has an odd rank, beside the even one.
theorem nearest (hden : 0 < den) (h : Rounds num den rank) (other : Nat) :
    |(num / den : ℚ) - sizeAt rank| ≤ |(num / den : ℚ) - sizeAt other| ∧
      (other ≠ rank → |(num / den : ℚ) - sizeAt other| = |(num / den : ℚ) - sizeAt rank| →
        rank % 2 = 0 ∧ other % 2 = 1) := by
  obtain ⟨hlow, hhigh, heven⟩ := h.bounds hden
  rcases lt_trichotomy other rank with hlt | rfl | hlt
  · have hsize : (sizeAt other : ℚ) < sizeAt rank := Nat.cast_lt.mpr (sizeAt_strictMono hlt)
    have hbefore : (sizeAt other : ℚ) ≤ sizeAt (rank - 1) :=
      Nat.cast_le.mpr (sizeAt_strictMono.monotone (Nat.le_sub_one_of_lt hlt))
    refine ⟨(abs_sub_ge_iff_of_lt hsize).mpr (by linarith), fun _ heq => ?_⟩
    have hmiddle := (abs_sub_le_iff_of_lt hsize).mp heq.le
    have heven := heven (.inl (by linarith))
    have hother : (sizeAt other : ℚ) = sizeAt (rank - 1) := by linarith
    have hother := sizeAt_strictMono.injective (Nat.cast_injective hother)
    omega
  · exact ⟨le_rfl, fun hne => absurd rfl hne⟩
  · have hsize : (sizeAt rank : ℚ) < sizeAt other := Nat.cast_lt.mpr (sizeAt_strictMono hlt)
    have hafter : (sizeAt (rank + 1) : ℚ) ≤ sizeAt other :=
      Nat.cast_le.mpr (sizeAt_strictMono.monotone hlt)
    refine ⟨(abs_sub_le_iff_of_lt hsize).mpr (by linarith), fun _ heq => ?_⟩
    have hmiddle := (abs_sub_ge_iff_of_lt hsize).mp heq.le
    have heven := heven (.inr (by linarith))
    have hother : (sizeAt other : ℚ) = sizeAt (rank + 1) := by linarith
    have hother := sizeAt_strictMono.injective (Nat.cast_injective hother)
    omega

-- The same for numbers of which a unit is a part, and with a sign.
theorem nearest_signed {unit : Nat} (hunit : 0 < unit) (hden : 0 < den)
    (h : Rounds (num * unit) den rank) {size : ℚ} {other : Nat}
    (hsize : size = sizeAt other / unit ∨ size = -(sizeAt other / unit)) :
    |(num / den : ℚ) - sizeAt rank / unit| ≤ |(num / den : ℚ) - size| ∧
      (size ≠ sizeAt rank / unit →
        |(num / den : ℚ) - size| = |(num / den : ℚ) - sizeAt rank / unit| →
          rank % 2 = 0 ∧ other % 2 = 1) := by
  have hunits : (0 : ℚ) < unit := Nat.cast_pos.mpr hunit
  have hnum : (0 : ℚ) ≤ num / den := by positivity
  have hplain (other : Nat) :
      |(num / den : ℚ) - sizeAt rank / unit| ≤ |(num / den : ℚ) - sizeAt other / unit| ∧
        ((sizeAt other / unit : ℚ) ≠ sizeAt rank / unit →
          |(num / den : ℚ) - sizeAt other / unit| =
            |(num / den : ℚ) - sizeAt rank / unit| → rank % 2 = 0 ∧ other % 2 = 1) := by
    obtain ⟨hle, heven⟩ := h.nearest hden other
    rw [Nat.cast_mul, mul_div_right_comm] at hle heven
    rw [abs_sub_div hunits, abs_sub_div hunits, div_le_div_iff_of_pos_right hunits,
      div_left_inj' hunits.ne']
    refine ⟨hle, fun hne heq => heven ?_ heq⟩
    rintro rfl
    exact hne rfl
  rcases hsize with rfl | rfl
  · exact hplain other
  -- zero is nearer than what has the other sign
  · obtain ⟨hle, heven⟩ := hplain 0
    rw [sizeAt_zero, Nat.cast_zero, zero_div, sub_zero, abs_of_nonneg hnum] at hle heven
    have hsize : (0 : ℚ) ≤ sizeAt other / unit := by positivity
    rw [sub_neg_eq_add, abs_of_nonneg (add_nonneg hnum hsize)]
    refine ⟨hle.trans (le_add_of_nonneg_right hsize), fun hne heq => ?_⟩
    refine absurd (heven ?_ ?_).2 (by decide)
    · intro hzero
      rw [← hzero, sub_zero, abs_of_nonneg hnum] at heq
      exact hne (by linarith)
    · linarith

-- What rounds to a double of a scale or below lies below the middle of the last one and the next.
theorem lt_iff (scale : Nat) (hden : 0 < den) (h : Rounds num den rank) :
    rank < (scale + 2) * exponentWeight ↔ 2 * num < (4 * exponentWeight - 1) * 2 ^ scale * den := by
  have hend : (scale + 2) * exponentWeight = scale * exponentWeight + 2 * exponentWeight := by ring
  have hlast : sizeAt ((scale + 2) * exponentWeight - 1) =
      (2 * exponentWeight - 1) * 2 ^ scale := by
    rw [hend, Nat.add_sub_assoc (by decide)]
    exact sizeAt_of_le (Nat.sub_le _ _) (.inr (by decide))
  have hnext : sizeAt ((scale + 2) * exponentWeight) = 2 * exponentWeight * 2 ^ scale := by
    rw [hend, sizeAt_of_carry]
  have hmiddle : sizeAt ((scale + 2) * exponentWeight - 1) + sizeAt ((scale + 2) * exponentWeight) =
      (4 * exponentWeight - 1) * 2 ^ scale := by
    rw [hlast, hnext, ← Nat.add_mul]
    rfl
  rw [← hmiddle]
  obtain ⟨limit, hlimit⟩ : ∃ limit, limit = (scale + 2) * exponentWeight := ⟨_, rfl⟩
  rw [← hlimit]
  constructor
  · intro hrank
    have hself : sizeAt rank ≤ sizeAt (limit - 1) :=
      sizeAt_strictMono.monotone (Nat.le_sub_one_of_lt hrank)
    have hsucc : sizeAt (rank + 1) ≤ sizeAt limit := sizeAt_strictMono.monotone hrank
    have hle := Nat.mul_le_mul_right den (Nat.add_le_add hself hsucc)
    refine (h.high.trans hle).lt_of_ne fun heq => ?_
    -- the last double is odd, so that the middle is not for it
    have htie := h.high.antisymm (heq ▸ hle)
    have hsum := Nat.eq_of_mul_eq_mul_right hden (htie.symm.trans heq)
    have hodd : rank + 1 = limit := sizeAt_strictMono.injective (by omega)
    have heven := h.highEven htie
    simp only [exponentWeight] at hlimit
    omega
  · intro hless
    by_contra hrank
    have hrank := Nat.le_of_not_lt hrank
    have hself : sizeAt limit ≤ sizeAt rank := sizeAt_strictMono.monotone hrank
    have hpred : sizeAt (limit - 1) ≤ sizeAt (rank - 1) :=
      sizeAt_strictMono.monotone (Nat.sub_le_sub_right hrank 1)
    have hle := Nat.mul_le_mul_right den (Nat.add_le_add hpred hself)
    exact absurd (hle.trans h.low) (Nat.not_le_of_lt hless)

theorem lt_iff_inRange (hden : 0 < den) (h : Rounds (num * unitsOfOne) den rank) :
    rank < 2047 * exponentWeight ↔ (num / den : ℚ) < 2 ^ 1024 - 2 ^ 970 := by
  have hpower : 2 ^ 2045 = 2 * unitsOfOne * 2 ^ 970 := by
    rw [unitsOfOne, ← pow_succ', ← pow_add]
  have hnum : 2 * (num * unitsOfOne) = 2 * unitsOfOne * num := by ring
  have hlimit (unit : Nat) : (4 * exponentWeight - 1) * (2 * unitsOfOne * unit) * den =
      2 * unitsOfOne * ((4 * exponentWeight - 1) * unit * den) := by ring
  have hrange (n : Nat) : (2 ^ (54 + n) - 2 ^ n : ℚ) = ((4 * exponentWeight - 1) * 2 ^ n : ℕ) := by
    rw [pow_add]
    push_cast [exponentWeight]
    ring
  have hrange : (2 ^ 1024 - 2 ^ 970 : ℚ) = ((4 * exponentWeight - 1) * 2 ^ 970 : ℕ) := hrange 970
  rw [h.lt_iff 2045 hden, hpower, hnum, hlimit,
    Nat.mul_lt_mul_left (Nat.mul_pos Nat.two_pos unitsOfOne_pos), hrange,
    div_lt_iff₀ (Nat.cast_pos.mpr hden), ← Nat.cast_mul, Nat.cast_lt]

end Rounds

section Signed

-- A number with a sign put before it.
def signed (negative : Bool) (q : ℚ) : ℚ := if negative then -q else q

theorem abs_signed (negative : Bool) (q : ℚ) : |signed negative q| = |q| := by
  cases negative with
  | false => rfl
  | true => exact abs_neg q

theorem abs_signed_sub (negative : Bool) (q q' : ℚ) :
    |signed negative q - signed negative q'| = |q - q'| := by
  cases negative with
  | false => rfl
  | true =>
    rw [signed, signed, if_pos rfl, if_pos rfl, neg_sub_neg, abs_sub_comm]

theorem signed_eq_or (negative negative' : Bool) (q : ℚ) :
    signed negative q = signed negative' q ∨ signed negative q = signed negative' (-q) := by
  cases negative <;> cases negative' <;> simp [signed]

theorem signed_injective (negative : Bool) : Function.Injective (signed negative) := by
  cases negative with
  | false => exact fun _ _ h => h
  | true => exact neg_injective

theorem exists_quotient (q : ℚ) :
    ∃ (negative : Bool) (num den : Nat), 0 < den ∧ q = signed negative (num / den) := by
  have hcast : (q.num.natAbs / q.den : ℚ) = |q| := by
    rw [Nat.cast_natAbs, Int.cast_abs, ← Nat.abs_cast q.den, ← abs_div, Rat.num_div_den]
  refine ⟨decide (q < 0), q.num.natAbs, q.den, q.den_pos, ?_⟩
  rw [hcast, signed]
  rcases lt_or_ge q 0 with hq | hq
  · rw [decide_eq_true hq, if_pos rfl, abs_of_neg hq, neg_neg]
  · rw [decide_eq_false hq.not_gt, abs_of_nonneg hq]
    rfl

end Signed

theorem value_eq (x : Binary64) : x.value = signed x.negative (sizeAt x.rank / unitsOfOne) := by
  have hsize : (x.numerator / x.denominator : ℚ) = sizeAt x.rank / unitsOfOne := by
    have hden : (x.denominator : ℚ) ≠ 0 := Nat.cast_ne_zero.mpr x.denominator_pos.ne'
    have hunits : (unitsOfOne : ℚ) ≠ 0 := Nat.cast_ne_zero.mpr unitsOfOne_pos.ne'
    rw [div_eq_div_iff hden hunits]
    exact_mod_cast x.numerator_mul
  rw [value, signedNumerator, signed, ← hsize]
  split
  · rw [Int.cast_neg, Int.cast_natCast, neg_div]
  · rw [Int.cast_natCast]

-- A double is told by its sign and its number.
theorem eq_of_value {x y : Binary64} (hnegative : x.negative = y.negative)
    (hvalue : x.value = y.value) : x = y := by
  have hunits : (unitsOfOne : ℚ) ≠ 0 := Nat.cast_ne_zero.mpr unitsOfOne_pos.ne'
  have hsize : (sizeAt x.rank / unitsOfOne : ℚ) = sizeAt y.rank / unitsOfOne := by
    rw [value_eq, value_eq, hnegative] at hvalue
    exact signed_injective y.negative hvalue
  have hrank := sizeAt_strictMono.injective (Nat.cast_injective ((div_left_inj' hunits).mp hsize))
  rw [← ofRank_rank x, ← ofRank_rank y, hnegative, hrank]

-- What rounds to the rank of a double is at least as near to it as to any other one. Another one
-- that is as near has an odd rank.
theorem nearest_of_rounds {x : Binary64} {num den : Nat} (hden : 0 < den)
    (h : Rounds (num * unitsOfOne) den x.rank) (y : Binary64) :
    |signed x.negative (num / den) - x.value| ≤ |signed x.negative (num / den) - y.value| ∧
      (y.value ≠ x.value →
        |signed x.negative (num / den) - y.value| = |signed x.negative (num / den) - x.value| →
        x.rank % 2 = 0 ∧ y.rank % 2 = 1) := by
  -- the other double with the sign of this one put before it
  obtain ⟨size, hvalue, hsize⟩ : ∃ size, y.value = signed x.negative size ∧
      (size = sizeAt y.rank / unitsOfOne ∨ size = -(sizeAt y.rank / unitsOfOne)) := by
    rw [value_eq]
    rcases signed_eq_or y.negative x.negative (sizeAt y.rank / unitsOfOne) with heq | heq
    · exact ⟨_, heq, .inl rfl⟩
    · exact ⟨_, heq, .inr rfl⟩
  obtain ⟨hle, htie⟩ := h.nearest_signed unitsOfOne_pos hden hsize
  rw [hvalue, value_eq, abs_signed_sub, abs_signed_sub]
  refine ⟨hle, fun hne heq => htie ?_ heq⟩
  rintro rfl
  exact hne rfl

-- It is rounded to this double, with its sign.
theorem nearestEven_of_rounds {x : Binary64} {num den : Nat} (hden : 0 < den)
    (hfinite : x.isFinite = true) (h : Rounds (num * unitsOfOne) den x.rank) :
    NearestEven (signed x.negative (num / den)) x := by
  have hrange := (h.lt_iff_inRange hden).mp (x.isFinite_iff.mp hfinite)
  have hnonneg : (0 : ℚ) ≤ num / den := by positivity
  refine ⟨hfinite, ?_, fun y _ => (nearest_of_rounds hden h y).1, fun y _ hne heq => ?_⟩
  · rwa [abs_signed, abs_of_nonneg hnonneg]
  · rw [significand_mod_two]
    exact ((nearest_of_rounds hden h y).2 hne heq).1

theorem exists_finite_of_inRange (negative : Bool) {num den : Nat} (hden : 0 < den)
    (hrange : (num / den : ℚ) < 2 ^ 1024 - 2 ^ 970) :
    ∃ x : Binary64, x.isFinite = true ∧ x.negative = negative ∧
      Rounds (num * unitsOfOne) den x.rank := by
  obtain ⟨rank, h⟩ := exists_rounds num hden
  have hrank := (h.lt_iff_inRange hden).mpr hrange
  have hsign : rank < signWeight := hrank.trans (by decide)
  refine ⟨ofRank negative rank, ?_, negative_ofRank hsign, ?_⟩
  · rwa [isFinite_iff, rank_ofRank hsign]
  · rwa [rank_ofRank hsign]

-- The nearest double is one, but for the sign of zero.
theorem NearestEven.value_unique {q : ℚ} {x y : Binary64} (hx : NearestEven q x)
    (hy : NearestEven q y) : x.value = y.value := by
  obtain ⟨negative, num, den, hden, hq⟩ : ∃ (negative : Bool) (num den : Nat), 0 < den ∧
      q = signed negative (num / den) :=
    exists_quotient q
  have hnonneg : (0 : ℚ) ≤ num / den := by positivity
  have hrange : (num / den : ℚ) < 2 ^ 1024 - 2 ^ 970 := by
    simpa [hq, abs_signed, abs_of_nonneg hnonneg] using hx.inRange
  obtain ⟨z, hfinite, rfl, h⟩ := exists_finite_of_inRange negative hden hrange
  have hsame {x : Binary64} (hx : NearestEven q x) : x.value = z.value := by
    by_contra hne
    rw [hq] at hx
    obtain ⟨hle, htie⟩ := nearest_of_rounds hden h x
    have heq := (hx.nearest z hfinite).antisymm hle
    have heven := hx.even z hfinite (Ne.symm hne) heq.symm
    have hodd := (htie hne heq).2
    rw [significand_mod_two] at heven
    omega
  rw [hsame hx, hsame hy]

end TableForge.Binary64
