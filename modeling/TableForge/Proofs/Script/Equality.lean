import TableForge.Script.Expr.Value

-- When a column that stores a value is equal to the literal that the value came from.
namespace TableForge

namespace Binary64

theorem compareInt_eq_iff {x : Binary64} (hx : x.isFinite) {i : Int} :
    compareInt i x = .eq ↔ i * x.denominator = x.signedNumerator := by
  simp [compareInt, hx]

theorem signedNumerator_eq {x : Binary64} (hx : x.isIntegral) :
    x.signedNumerator = x.truncate * x.denominator := by
  obtain ⟨-, hzero⟩ : x.isFinite = true ∧ x.numerator % x.denominator = 0 := by
    simpa [isIntegral] using hx
  have hdiv : ((x.numerator / x.denominator : Nat) : Int) * x.denominator = x.numerator := by
    exact_mod_cast Nat.div_mul_cancel (Nat.dvd_of_mod_eq_zero hzero)
  rw [signedNumerator, truncate]
  split
  · rw [Int.neg_mul, hdiv]
  · rw [hdiv]

end Binary64

namespace Datum

theorem compareBytes_self (s : List UInt8) : compareBytes s s = .eq := by
  induction s with
  | nil => rfl
  | cons b s ih => simp [compareBytes, ih]

theorem compare_self (k : Collation) (d : Datum) : compare k d d = .eq := by
  cases d <;> simp [compare, compareBytes_self]

-- What a text is as a number: itself, an integer, or a real that is no integer.
theorem toNumeric_text (s : List UInt8) :
    (text s).toNumeric = .text s ∨ (∃ i, (text s).toNumeric = .int i) ∨
      ∃ x, (text s).toNumeric = .real x ∧ wholeReal x = .real x := by
  cases hread : Numeral.readAll (chars s) with
  | none => exact .inl (by simp only [toNumeric, hread])
  | some n =>
    cases hint : n.toInt? with
    | some i => exact .inr (.inl ⟨i, by simp only [toNumeric, hread, hint]⟩)
    | none =>
      have hreal : (text s).toNumeric = wholeReal n.toReal := by
        simp only [toNumeric, hread, hint]
      rw [hreal]
      unfold wholeReal
      split
      · exact .inr (.inl ⟨_, rfl⟩)
      · rename_i hwhole
        exact .inr (.inr ⟨_, rfl, if_neg hwhole⟩)

theorem toNumeric_toNumeric_text (s : List UInt8) :
    (text s).toNumeric.toNumeric = (text s).toNumeric := by
  rcases toNumeric_text s with h | ⟨i, h⟩ | ⟨x, h, hx⟩
  · rw [h, h]
  · rw [h]
    rfl
  · rw [h]
    exact hx

-- A real that becomes an integer is exactly that integer.
theorem compare_wholeReal (k : Collation) (x : Binary64) (i : Int) :
    compare k (wholeReal x) (.int i) = .eq ↔ Binary64.compareInt i x = .eq := by
  unfold wholeReal
  split
  · rename_i hwhole
    have hintegral : x.isIntegral = true := by
      simp only [Bool.and_eq_true] at hwhole
      exact hwhole.1.1
    have hfinite : x.isFinite = true := by
      simp only [Binary64.isIntegral, Bool.and_eq_true] at hintegral
      exact hintegral.1
    have hpos : (x.denominator : Int) ≠ 0 :=
      Int.natCast_ne_zero.mpr (Nat.ne_of_gt (Binary64.denominator_pos x))
    rw [Binary64.compareInt_eq_iff hfinite, Binary64.signedNumerator_eq hintegral,
      Int.mul_eq_mul_right_iff hpos]
    exact Int.compare_eq_eq.trans eq_comm
  · simp [compare]

-- A column of reals stores a number as a real. Of the integers it keeps those that are a double.
def KeptBy (a : Affinity) (d : Datum) : Prop :=
  a = .real → ∀ i, d.toNumeric = .int i → Binary64.compareInt i (.ofInt i) = .eq

theorem apply_text_ne_null (a : Affinity) (s : List UInt8) : a.apply (.text s) ≠ .null := by
  have hnumeric : (text s).toNumeric ≠ .null := by
    rcases toNumeric_text s with h | ⟨i, h⟩ | ⟨x, h, -⟩ <;> simp [h]
  cases a with
  | blob | text => simp [Affinity.apply, toText]
  | numeric | integer => exact hnumeric
  | real =>
    simp only [Affinity.apply]
    split
    · simp
    · exact hnumeric

-- A stored text and the text itself, as a comparison sees them.
theorem compare_stored (a : Affinity) (k : Collation) (s : List UInt8) :
    (compare k (comparable a (a.apply (.text s)) (.text s)).1
        (comparable a (a.apply (.text s)) (.text s)).2 = .eq) ↔ KeptBy a (.text s) := by
  have hnumeric : compare k (text s).toNumeric.toNumeric (text s).toNumeric = .eq := by
    rw [toNumeric_toNumeric_text, compare_self]
  cases a with
  | blob | text => simp [Affinity.apply, comparable, toText, compare_self, KeptBy]
  | numeric | integer => simp [Affinity.apply, comparable, hnumeric, KeptBy]
  | real =>
    rcases toNumeric_text s with h | ⟨i, h⟩ | ⟨x, h, hx⟩
    · simp [Affinity.apply, comparable, h, compare_self, KeptBy]
    · have hstored : (real (.ofInt i)).toNumeric = wholeReal (.ofInt i) := rfl
      simp [Affinity.apply, comparable, h, hstored, compare_wholeReal, KeptBy]
    · have hstored : (real x).toNumeric = .real x := hx
      simp [Affinity.apply, comparable, h, hstored, compare_self, KeptBy]

end Datum

namespace Script.Expr

variable (c : Circumstances) {row : List Datum} {i : Nat} {a : Affinity} (k : Option Collation)

theorem test_eq (l r : Expr) :
    (Expr.binary .eq l r).test? c row =
      (l.eval? (c.inside 0) row).bind fun x => (r.eval? (c.inside 1) row).map fun y =>
        (comparison .eq l r x.datum y.datum).truth? := by
  rw [test?, value?, eval?, eval?]
  change ((value? false (c.inside 0) row l).bind fun x =>
    (value? false (c.inside 1) row r).bind fun y =>
      some (plain (comparison .eq l r x.datum y.datum))).map _ = _
  cases value? false (c.inside 0) row l with
  | none => rfl
  | some x => cases value? false (c.inside 1) row r <;> rfl

-- Nothing is equal to NULL, not even NULL.
theorem test_null {d : Datum} (hrow : row[i]? = some d) :
    (Expr.binary .eq (.column i a k) (.literal .null)).test? c row = some none := by
  simp [test_eq, eval?, value?, hrow, plain, comparison, Datum.isNull, Datum.truth?, Datum.operand]

theorem test_text {s : List UInt8} (hrow : row[i]? = some (a.apply (.text s))) :
    (Expr.binary .eq (.column i a k) (.literal (.text s))).test? c row = some (some true) ↔
      Datum.KeptBy a (.text s) := by
  have haffinity : comparisonAffinity (.column i a k) (.literal (.text s)) =
      if a.isNumeric then .numeric else a := rfl
  have hsame : Datum.comparable (if a.isNumeric then .numeric else a) = Datum.comparable a := by
    cases a <;> rfl
  have hnull : (a.apply (.text s)).isNull = false := by
    have hne := Datum.apply_text_ne_null a s
    cases hd : a.apply (.text s) <;> simp_all [Datum.isNull]
  have htext : (Datum.text s).isNull = false := rfl
  rw [← Datum.compare_stored a (comparisonCollation (.column i a k) (.literal (.text s)))]
  simp only [test_eq, eval?, value?, hrow, Option.map_some, plain, comparison, haffinity, hsame,
    hnull, htext, Option.bind_some, Bool.or_self, Bool.false_eq_true, if_false, Option.some.injEq]
  generalize Datum.compare _ _ _ = order
  cases order <;> decide

end Script.Expr

end TableForge
