import TableForge.Decimal.Binary64
import Mathlib.Order.Monotone.Basic
import Mathlib.Tactic.Ring

-- Finite doubles stand in a row by their size: the rank of one is its place there, and its bits
-- without the sign spell it.
namespace TableForge

theorem twoTo_eq (n : Nat) : twoTo n = 2 ^ n := rfl

-- Of the differences of two exponents one is cut off.
theorem two_pow_sub_mul (m n : Nat) : 2 ^ (m - n) * 2 ^ n = 2 ^ m * 2 ^ (n - m) := by
  rw [← pow_add, ← pow_add]
  congr 1
  omega

namespace Binary64

def rank (x : Binary64) : Nat := x.bits.toNat % signWeight

-- The unit of all sizes is the least positive double. So many of them are one.
def unitsOfOne : Nat := 2 ^ 1074

-- The significand, the scale and the size of the double of a rank, the size in units.

def significandAt (rank : Nat) : Nat :=
  if rank < exponentWeight then rank else rank % exponentWeight + exponentWeight

def scaleAt (rank : Nat) : Nat := rank / exponentWeight - 1

def sizeAt (rank : Nat) : Nat := significandAt rank * 2 ^ scaleAt rank

-- A significand that belongs to a scale: it is as long as possible, but for the least scale.
structure Fits (significand scale : Nat) : Prop where
  short : significand < 2 * exponentWeight
  long : scale = 0 ∨ exponentWeight ≤ significand

theorem fits_at (rank : Nat) : Fits (significandAt rank) (scaleAt rank) := by
  constructor
  all_goals
    simp only [significandAt, scaleAt, exponentWeight]
    split <;> omega

theorem rank_eq (rank : Nat) : scaleAt rank * exponentWeight + significandAt rank = rank := by
  simp only [significandAt, scaleAt, exponentWeight]
  split <;> omega

theorem at_of_fits {significand scale : Nat} (h : Fits significand scale) :
    significandAt (scale * exponentWeight + significand) = significand ∧
      scaleAt (scale * exponentWeight + significand) = scale := by
  obtain ⟨hshort, hlong⟩ := h
  simp only [significandAt, scaleAt, exponentWeight] at *
  split <;> omega

theorem sizeAt_of_fits {significand scale : Nat} (h : Fits significand scale) :
    sizeAt (scale * exponentWeight + significand) = significand * 2 ^ scale := by
  rw [sizeAt, (at_of_fits h).1, (at_of_fits h).2]

-- A significand that is too long by one bit is the first one of the next scale.
theorem sizeAt_of_carry (scale : Nat) :
    sizeAt (scale * exponentWeight + 2 * exponentWeight) = 2 * exponentWeight * 2 ^ scale := by
  have hfits : Fits exponentWeight (scale + 1) := ⟨by decide, .inr le_rfl⟩
  have hrank : scale * exponentWeight + 2 * exponentWeight =
      (scale + 1) * exponentWeight + exponentWeight := by ring
  rw [hrank, sizeAt_of_fits hfits]
  ring

-- The size of a significand in the units of a scale, at the end of which it may stand.
theorem sizeAt_of_le {significand scale : Nat} (hshort : significand ≤ 2 * exponentWeight)
    (hlong : scale = 0 ∨ exponentWeight ≤ significand) :
    sizeAt (scale * exponentWeight + significand) = significand * 2 ^ scale := by
  rcases Nat.lt_or_eq_of_le hshort with hlt | rfl
  · exact sizeAt_of_fits ⟨hlt, hlong⟩
  · exact sizeAt_of_carry scale

-- The next double is larger by one unit of the scale.
theorem sizeAt_succ (rank : Nat) : sizeAt (rank + 1) = sizeAt rank + 2 ^ scaleAt rank := by
  obtain ⟨hshort, hlong⟩ := fits_at rank
  have hsucc : sizeAt (scaleAt rank * exponentWeight + (significandAt rank + 1)) =
      (significandAt rank + 1) * 2 ^ scaleAt rank :=
    sizeAt_of_le hshort (hlong.imp_right Nat.le_succ_of_le)
  rw [← Nat.add_assoc, rank_eq] at hsucc
  rw [hsucc, sizeAt]
  ring

theorem sizeAt_pred {rank : Nat} (h : 0 < rank) :
    sizeAt rank = sizeAt (rank - 1) + 2 ^ scaleAt (rank - 1) := by
  rw [← sizeAt_succ, Nat.sub_one_add_one h.ne']

-- Below the first significand of a scale the units are those of the scale before.
theorem scaleAt_pred {rank : Nat} (h : 0 < rank) :
    scaleAt (rank - 1) =
      if significandAt rank = exponentWeight ∧ 0 < scaleAt rank then scaleAt rank - 1
      else scaleAt rank := by
  simp only [significandAt, scaleAt, exponentWeight]
  split <;> split <;> omega

-- The next size is at least one unit of the scale away.
theorem sizeAt_succ_ge {significand scale : Nat}
    (hlong : scale = 0 ∨ exponentWeight ≤ significand) :
    sizeAt (scale * exponentWeight + significand) + 2 ^ scale ≤
      sizeAt (scale * exponentWeight + significand + 1) := by
  rw [sizeAt_succ]
  refine Nat.add_le_add_left (Nat.pow_le_pow_right Nat.two_pos ?_) _
  simp only [scaleAt, exponentWeight] at *
  omega

-- The size before is one unit away, but for the first significand of a scale.
theorem sizeAt_eq_pred_add {significand scale : Nat} (hshort : significand ≤ 2 * exponentWeight)
    (hlong : scale = 0 ∧ 0 < significand ∨ exponentWeight < significand) :
    sizeAt (scale * exponentWeight + significand) =
      sizeAt (scale * exponentWeight + significand - 1) + 2 ^ scale := by
  have hscale : scaleAt (scale * exponentWeight + significand - 1) = scale := by
    simp only [scaleAt, exponentWeight] at *
    omega
  rw [sizeAt_pred (by omega), hscale]

theorem sizeAt_strictMono : StrictMono sizeAt :=
  strictMono_nat_of_lt_succ fun rank => by
    rw [sizeAt_succ]
    exact Nat.lt_add_of_pos_right (Nat.two_pow_pos _)

theorem sizeAt_zero : sizeAt 0 = 0 := rfl

theorem unitsOfOne_pos : 0 < unitsOfOne := pow_pos Nat.two_pos 1074

section Double

variable (x : Binary64)

theorem rank_lt : x.rank < signWeight := Nat.mod_lt _ (by decide)

theorem exponentField_eq : x.exponentField = x.rank / exponentWeight := by
  simp only [exponentField, rank, signWeight, exponentWeight]
  omega

theorem significand_eq : x.significand = significandAt x.rank := by
  have hfraction : x.fraction = x.rank % exponentWeight := by
    simp only [fraction, rank, signWeight, exponentWeight]
    omega
  rw [significand, exponentField_eq, hfraction, significandAt]
  simp only [exponentWeight]
  split <;> split <;> omega

theorem scale_eq : x.scale = scaleAt x.rank := by rw [scale, exponentField_eq, scaleAt]

theorem significand_mod_two : x.significand % 2 = x.rank % 2 := by
  have hrank := rank_eq x.rank
  rw [significand_eq]
  simp only [exponentWeight] at hrank
  omega

theorem isFinite_iff : x.isFinite = true ↔ x.rank < 2047 * exponentWeight := by
  have hrank := x.rank_lt
  rw [isFinite, exponentField_eq, bne_iff_ne]
  simp only [signWeight, exponentWeight] at *
  omega

-- The size as a quotient and in units.
theorem numerator_mul : x.numerator * unitsOfOne = sizeAt x.rank * x.denominator := by
  have hpower : 2 ^ (x.scale - 1074) * unitsOfOne = 2 ^ x.scale * 2 ^ (1074 - x.scale) :=
    two_pow_sub_mul x.scale 1074
  rw [numerator, denominator, twoTo_eq, twoTo_eq, Nat.mul_assoc, hpower, significand_eq, sizeAt,
    ← scale_eq, Nat.mul_assoc]

end Double

-- The double with a sign and a rank.
def ofRank (negative : Bool) (rank : Nat) : Binary64 :=
  ⟨UInt64.ofNat (if negative then signWeight + rank else rank)⟩

-- A double is told by its sign and its rank.
theorem ofRank_rank (x : Binary64) : ofRank x.negative x.rank = x := by
  obtain ⟨bits⟩ := x
  have hbits := bits.toNat_lt
  rw [ofRank, mk.injEq, ← UInt64.toNat_inj]
  simp only [negative, rank, signWeight, UInt64.toNat_ofNat', decide_eq_true_eq]
  split <;> omega

section OfRank

variable {sign : Bool} {r : Nat}

theorem rank_ofRank (h : r < signWeight) : (ofRank sign r).rank = r := by
  simp only [ofRank, rank, signWeight, UInt64.toNat_ofNat'] at *
  split <;> omega

theorem negative_ofRank (h : r < signWeight) : (ofRank sign r).negative = sign := by
  rw [Bool.eq_iff_iff]
  simp only [ofRank, negative, signWeight, UInt64.toNat_ofNat', decide_eq_true_eq] at *
  cases sign <;> simp <;> omega

end OfRank

end Binary64

end TableForge
