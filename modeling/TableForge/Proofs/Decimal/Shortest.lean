import TableForge.Decimal.Shortest
import TableForge.Proofs.Decimal.Rounding

-- The decimal that a double is written with lies among the numbers that round to the double.
namespace TableForge

theorem tenTo_pos (n : Nat) : 0 < tenTo n := Nat.pow_pos (by decide)

theorem tenTo_zero : tenTo 0 = 1 := rfl

theorem tenTo_eq (n : Nat) : tenTo n = 10 ^ n := rfl

namespace Binary64

-- The denominators of a double and of its cell.
theorem unit_mul (x : Binary64) :
    twoTo (x.scale - 1074) * unitsOfOne = 2 ^ x.scale * twoTo (1074 - x.scale) :=
  two_pow_sub_mul x.scale 1074

section Ends

variable (x : Binary64)

theorem rank_split : x.scale * exponentWeight + x.significand = x.rank := by
  rw [significand_eq, scale_eq, rank_eq]

theorem fits : Fits x.significand x.scale := by
  rw [significand_eq, scale_eq]
  exact fits_at x.rank

theorem significand_pos (h : 0 < x.rank) : 0 < x.significand := by
  obtain ⟨-, hlong⟩ := x.fits
  have hrank := x.rank_split
  simp only [exponentWeight] at *
  omega

theorem size_eq : sizeAt x.rank = x.significand * 2 ^ x.scale := by
  rw [← rank_split, sizeAt_of_fits x.fits]

-- The ends of a cell are the middles to the neighbours.

theorem cell_high : x.cell.high * 2 ^ x.scale = 2 * (sizeAt x.rank + sizeAt (x.rank + 1)) := by
  rw [sizeAt_succ, size_eq, ← scale_eq, cell]
  ring

theorem cell_low : x.cell.low * 2 ^ x.scale = 2 * (sizeAt (x.rank - 1) + sizeAt x.rank) := by
  rcases Nat.eq_zero_or_pos x.rank with hzero | hpos
  · have hsignificand : x.significand = 0 := by rw [significand_eq, hzero]; rfl
    simp [cell, hsignificand, hzero, sizeAt_zero]
  have hpred := sizeAt_pred hpos
  rw [scaleAt_pred hpos, ← significand_eq, ← scale_eq, size_eq] at hpred
  obtain ⟨m, hm⟩ : ∃ m, x.significand = m + 1 :=
    Nat.exists_eq_succ_of_ne_zero (x.significand_pos hpos).ne'
  simp only [cell, size_eq]
  rw [hm] at hpred ⊢
  by_cases hleast : m + 1 = exponentWeight ∧ 0 < x.scale
  · have hpower : 2 ^ x.scale = 2 ^ (x.scale - 1) * 2 := by
      rw [← pow_succ, Nat.sub_one_add_one hleast.2.ne']
    have hlow : 4 * (m + 1) - 1 = 4 * m + 3 := rfl
    rw [if_pos hleast] at hpred
    rw [if_pos (by simpa using hleast), hlow]
    rw [hpower] at hpred ⊢
    linarith
  · have hlow : 4 * (m + 1) - 2 = 4 * m + 2 := rfl
    rw [if_neg hleast] at hpred
    rw [if_neg (by simpa using hleast), hlow]
    linarith

end Ends

-- Comparisons are the same with other factors.

theorem le_iff_of_mul_eq {a a' b b' c d : Nat} (hc : 0 < c) (hd : 0 < d) (ha : a * c = a' * d)
    (hb : b * c = b' * d) : a ≤ b ↔ a' ≤ b' := by
  rw [← Nat.mul_le_mul_right_iff hc, ha, hb, Nat.mul_le_mul_right_iff hd]

theorem eq_iff_of_mul_eq {a a' b b' c d : Nat} (hc : 0 < c) (hd : 0 < d) (ha : a * c = a' * d)
    (hb : b * c = b' * d) : a = b ↔ a' = b' := by
  rw [le_antisymm_iff, le_antisymm_iff, le_iff_of_mul_eq hc hd ha hb, le_iff_of_mul_eq hc hd hb ha]

namespace Cell

variable {c : Cell} {k : Nat} {p : Int}

-- A number lies between the ends of a cell, and is an end only of a closed cell.
theorem contains_iff :
    c.contains k p = true ↔
      c.low * (c.num * tenTo (-p).toNat) ≤ k * tenTo p.toNat * c.den ∧
        k * tenTo p.toNat * c.den ≤ c.high * (c.num * tenTo (-p).toNat) ∧
        (k * tenTo p.toNat * c.den = c.low * (c.num * tenTo (-p).toNat) ∨
          k * tenTo p.toNat * c.den = c.high * (c.num * tenTo (-p).toNat) → c.closed = true) := by
  simp only [contains]
  cases c.closed with
  | true => simp
  | false =>
    simp only [Bool.false_eq_true, if_false, Bool.and_eq_true, decide_eq_true_eq, imp_false,
      not_or, lt_iff_le_and_ne, ne_comm]
    tauto

theorem contains_of_nearest? (h : c.nearest? p = some k) : c.contains k p = true := by
  simp only [nearest?] at h
  split at h
  · rename_i habove
    obtain rfl := Option.some.inj h
    exact (Bool.and_eq_true_iff.mp habove).1
  · split at h
    · rename_i hbelow
      obtain rfl := Option.some.inj h
      exact hbelow
    · cases h

-- The search ends with a number in the cell if it meets one.
theorem contains_search {fuel steps : Nat} (hsteps : steps < fuel)
    (h : (c.nearest? (p - steps)).isSome = true) :
    c.contains (c.search fuel p).1 (c.search fuel p).2 = true := by
  induction fuel generalizing p steps with
  | zero => omega
  | succ fuel ih =>
    rw [search]
    cases hnearest : c.nearest? p with
    | some k => exact contains_of_nearest? hnearest
    | none =>
      cases steps with
      | zero => simp [hnearest] at h
      | succ steps =>
        have hnext : p - (steps + 1 : Nat) = p - 1 - steps := by omega
        rw [hnext] at h
        exact ih (Nat.lt_of_succ_lt_succ hsteps) h

-- What the search leaves behind has no number in the cell.
theorem nearest?_eq_none_of_search {fuel : Nat} {q : Int} (hq : (c.search fuel p).2 < q)
    (hp : q ≤ p) : c.nearest? q = none := by
  induction fuel generalizing p with
  | zero => exact absurd hq (Int.not_lt.mpr hp)
  | succ fuel ih =>
    rw [search] at hq
    cases hnearest : c.nearest? p with
    | some k =>
      rw [hnearest] at hq
      exact absurd hq (Int.not_lt.mpr hp)
    | none =>
      rw [hnearest] at hq
      rcases Int.lt_or_eq_of_le hp with hlt | rfl
      · exact ih hq (by omega)
      · exact hnearest

-- A number between one in the cell and the end behind it is in the cell.
theorem contains_of_between {k' : Nat} (h : c.contains k p = true)
    (hbetween : k ≤ k' ∧ k' * tenTo p.toNat * c.den < c.high * (c.num * tenTo (-p).toNat) ∨
      k' ≤ k ∧ c.low * (c.num * tenTo (-p).toNat) < k' * tenTo p.toNat * c.den) :
    c.contains k' p = true := by
  obtain ⟨hlow, hhigh, hends⟩ := contains_iff.mp h
  rw [contains_iff]
  rcases hbetween with ⟨hk, hend⟩ | ⟨hk, hend⟩
  · have hle := Nat.mul_le_mul_right c.den (Nat.mul_le_mul_right (tenTo p.toNat) hk)
    refine ⟨hlow.trans hle, hend.le, ?_⟩
    rintro (heq | heq)
    · exact hends (.inl (hlow.antisymm' (hle.trans_eq heq)))
    · exact absurd heq hend.ne
  · have hle := Nat.mul_le_mul_right c.den (Nat.mul_le_mul_right (tenTo p.toNat) hk)
    refine ⟨hend.le, hle.trans hhigh, ?_⟩
    rintro (heq | heq)
    · exact absurd heq hend.ne'
    · exact hends (.inr (hhigh.antisymm (heq.symm.trans_le hle)))

-- If the cell has a multiple of a power of ten, then it has one of the two around its middle.
theorem nearest?_isSome (hlow : c.low ≤ c.mid) (hhigh : c.mid < c.high) (hnum : 0 < c.num)
    (hden : 0 < c.den) (h : c.contains k p = true) : (c.nearest? p).isSome = true := by
  have hstep : 0 < tenTo p.toNat * c.den := Nat.mul_pos (tenTo_pos _) hden
  have hlow := Nat.mul_le_mul_right (c.num * tenTo (-p).toNat) hlow
  have hhigh := Nat.mul_lt_mul_of_pos_right hhigh (Nat.mul_pos hnum (tenTo_pos (-p).toNat))
  have hbelow := Nat.div_mul_le_self (c.mid * (c.num * tenTo (-p).toNat)) (tenTo p.toNat * c.den)
  have habove := (Nat.div_lt_iff_lt_mul hstep).mp
    (Nat.lt_succ_self (c.mid * (c.num * tenTo (-p).toNat) / (tenTo p.toNat * c.den)))
  simp only [nearest?]
  generalize c.mid * (c.num * tenTo (-p).toNat) / (tenTo p.toNat * c.den) = below at *
  have hnearest : c.contains below p = true ∨ c.contains (below + 1) p = true := by
    rcases Nat.lt_or_ge below k with hlt | hge
    · refine .inr (contains_of_between h (.inr ⟨hlt, ?_⟩))
      rw [Nat.mul_assoc]
      exact hlow.trans_lt habove
    · refine .inl (contains_of_between h (.inl ⟨hge, ?_⟩))
      rw [Nat.mul_assoc]
      exact hbelow.trans_lt hhigh
  cases hin : c.contains below p with
  | true =>
    simp only [if_true]
    split <;> rfl
  | false =>
    have habove := hnearest.resolve_left (by simp [hin])
    simp [habove]

end Cell

section Contains

variable {x : Binary64} {k : Nat} {p : Int}

-- The decimals in the cell are those that round to the double.
theorem contains_iff_rounds :
    x.cell.contains k p = true ↔
      Rounds (k * tenTo p.toNat * unitsOfOne) (tenTo (-p).toNat) x.rank := by
  have hpos : 0 < 2 * twoTo (1074 - x.scale) := Nat.mul_pos Nat.two_pos (Nat.two_pow_pos _)
  have hpoint : k * tenTo p.toNat * x.cell.den * unitsOfOne =
      2 * (k * tenTo p.toNat * unitsOfOne) * (2 * twoTo (1074 - x.scale)) := by
    rw [cell]
    ring
  have hend {bound middle : Nat} (hbound : bound * 2 ^ x.scale = 2 * middle) :
      bound * (x.cell.num * tenTo (-p).toNat) * unitsOfOne =
        middle * tenTo (-p).toNat * (2 * twoTo (1074 - x.scale)) := by
    calc bound * (x.cell.num * tenTo (-p).toNat) * unitsOfOne
        = bound * tenTo (-p).toNat * (twoTo (x.scale - 1074) * unitsOfOne) := by rw [cell]; ring
      _ = bound * 2 ^ x.scale * (tenTo (-p).toNat * twoTo (1074 - x.scale)) := by
          rw [x.unit_mul]; ring
      _ = middle * tenTo (-p).toNat * (2 * twoTo (1074 - x.scale)) := by rw [hbound]; ring
  have hparity : x.cell.closed = true ↔ x.rank % 2 = 0 := by
    rw [cell, decide_eq_true_eq, significand_mod_two]
  rw [Cell.contains_iff, le_iff_of_mul_eq unitsOfOne_pos hpos (hend x.cell_low) hpoint,
    le_iff_of_mul_eq unitsOfOne_pos hpos hpoint (hend x.cell_high),
    eq_iff_of_mul_eq unitsOfOne_pos hpos hpoint (hend x.cell_low),
    eq_iff_of_mul_eq unitsOfOne_pos hpos hpoint (hend x.cell_high), hparity]
  constructor
  · rintro ⟨hlow, hhigh, heven⟩
    exact ⟨hlow, hhigh, fun h => heven (.inl h), fun h => heven (.inr h)⟩
  · rintro ⟨hlow, hhigh, hlowEven, hhighEven⟩
    exact ⟨hlow, hhigh, fun h => h.elim hlowEven hhighEven⟩

theorem nearest?_isSome_of_contains (h : x.cell.contains k p = true) :
    (x.cell.nearest? p).isSome = true := by
  refine Cell.nearest?_isSome ?_ (Nat.lt_add_of_pos_right Nat.two_pos) (Nat.two_pow_pos _)
    (Nat.mul_pos (by decide) (Nat.two_pow_pos _)) h
  simp only [cell]
  split <;> omega

-- A decimal in the cell that is a whole number is the double itself.
theorem isIntegral_of_contains (hfinite : x.isFinite = true) (hp : 0 ≤ p)
    (h : x.cell.contains k p = true) : x.isIntegral = true := by
  obtain ⟨hlow, hhigh, -⟩ := Cell.contains_iff.mp h
  have hend : 4 * x.significand - 2 ≤ x.cell.low := by
    simp only [cell]
    split <;> omega
  have hend' : x.cell.high = 4 * x.significand + 2 := rfl
  have hpoint : k * tenTo p.toNat * x.cell.den =
      4 * (k * tenTo p.toNat * twoTo (1074 - x.scale)) := by
    rw [cell]
    ring
  rw [isIntegral, hfinite, Bool.true_and, beq_iff_eq, numerator, denominator]
  rcases Nat.lt_or_ge x.scale 1074 with hless | hmore
  · have hunit : twoTo (x.scale - 1074) = 1 := by rw [Nat.sub_eq_zero_of_le hless.le]
    have hcell : x.cell.num * tenTo (-p).toNat = 1 := by
      have hpower : (-p).toNat = 0 := by omega
      simp only [cell, hunit, hpower, tenTo_zero, Nat.mul_one]
    rw [hcell, Nat.mul_one, hpoint] at hlow hhigh
    have hsignificand : x.significand = k * tenTo p.toNat * twoTo (1074 - x.scale) := by omega
    rw [hunit, Nat.mul_one, hsignificand]
    exact Nat.mul_mod_left _ _
  · have hunit : twoTo (1074 - x.scale) = 1 := by rw [Nat.sub_eq_zero_of_le hmore]
    rw [hunit]
    exact Nat.mod_one _

end Contains

-- Every finite double is a multiple of the last power that is searched.
theorem contains_last (x : Binary64) {n : Nat} (hn : 2 ^ n = unitsOfOne) :
    x.cell.contains (sizeAt x.rank * 5 ^ n) (-n) = true := by
  have hten : tenTo n = 2 ^ n * 5 ^ n := mul_pow 2 5 n
  have hup : (-(n : Int)).toNat = 0 := by omega
  have hdown : (-(-(n : Int))).toNat = n := by omega
  rw [contains_iff_rounds, hup, hdown, tenTo_zero, Nat.mul_one]
  refine .exact (tenTo_pos n) ?_
  rw [hten, hn]
  ring

theorem contains_shortest (x : Binary64) : x.cell.contains x.shortest.1 x.shortest.2 = true := by
  have hlast : (309 : Int) - (309 + 1074 : Nat) = -(1074 : Nat) := by decide
  refine Cell.contains_search (Nat.lt_succ_self (309 + 1074)) ?_
  rw [hlast]
  exact nearest?_isSome_of_contains (x.contains_last rfl)

-- No multiple of a larger power of ten is in the cell.
theorem not_contains_of_lt {x : Binary64} {k : Nat} {p : Int} (hlt : x.shortest.2 < p)
    (hp : p ≤ 309) : ¬x.cell.contains k p = true := by
  intro h
  have hsome := nearest?_isSome_of_contains h
  rw [Cell.nearest?_eq_none_of_search hlt hp] at hsome
  cases hsome

theorem shortest_neg {x : Binary64} (hfinite : x.isFinite = true) (h : x.isIntegral = false) :
    x.shortest.2 < 0 := by
  by_contra hp
  have hintegral := isIntegral_of_contains hfinite (Int.not_lt.mp hp) x.contains_shortest
  rw [h] at hintegral
  cases hintegral

end Binary64

end TableForge
