import TableForge.Decimal.Notation
import TableForge.Proofs.Decimal.Nearest
import TableForge.Proofs.Decimal.Shortest

-- The text of a finite double is a decimal that rounds to the double again.
namespace TableForge

-- The sign of a number as it is written.
def signText (negative : Bool) : List Char := if negative then ['-'] else []

-- A sign or none, digits, a point and digits.
structure IsDecimal (text : List Char) (negative : Bool) (whole fraction : List Char) : Prop where
  spelled : text = signText negative ++ (whole ++ '.' :: fraction)
  wholeGiven : whole ≠ []
  wholeDigits : ∀ c ∈ whole, c.isDigit = true
  fractionGiven : fraction ≠ []
  fractionDigits : ∀ c ∈ fraction, c.isDigit = true

-- A sign or none and digits.
def IsInteger (text : List Char) : Prop :=
  ∃ negative digits, text = signText negative ++ digits ∧ ∀ c ∈ digits, c.isDigit = true

-- The digits of a decimal as one number.
def decimalDigits (whole fraction : List Char) : Nat := Nat.ofDigitChars 10 (whole ++ fraction) 0

-- The number that a decimal denotes, without its sign.
def decimalSize (whole fraction : List Char) : ℚ :=
  decimalDigits whole fraction / 10 ^ fraction.length

theorem isInteger_toString (i : Int) : IsInteger (toString i).toList := by
  have hdigits (n : Nat) : ∀ c ∈ Nat.toDigits 10 n, c.isDigit = true :=
    fun c hc => Nat.isDigit_of_mem_toDigits (by decide) (by decide) hc
  rw [Int.toString_eq_repr, Int.repr_eq_if]
  split
  · exact ⟨false, _, Nat.toList_repr, hdigits i.toNat⟩
  · refine ⟨true, Nat.toDigits 10 (-i).toNat, ?_, hdigits _⟩
    rw [String.toList_append, Nat.toList_repr]
    rfl

namespace IsDecimal

variable {text whole fraction whole' fraction' : List Char} {negative negative' : Bool}

-- The point tells a decimal from an integer.
theorem not_isInteger (h : IsDecimal text negative whole fraction) : ¬IsInteger text := by
  rintro ⟨sign, digits, htext, hdigits⟩
  have hpoint : '.' ∈ text := by simp [h.spelled]
  rw [htext, List.mem_append] at hpoint
  rcases hpoint with hsign | hdigit
  · cases sign <;> simp [signText] at hsign
  · exact absurd (hdigits '.' hdigit) (by decide)

-- The sign of a decimal is told by its first character.
theorem negative_iff (h : IsDecimal text negative whole fraction) :
    negative = true ↔ text.head? = some '-' := by
  cases negative with
  | true => simp [h.spelled, signText]
  | false =>
    obtain ⟨digit, digits, hwhole⟩ := List.exists_cons_of_ne_nil h.wholeGiven
    have hdigit := h.wholeDigits digit (by simp [hwhole])
    simp only [h.spelled, hwhole, signText, Bool.false_eq_true, if_false, List.nil_append,
      List.cons_append, List.head?_cons, Option.some.injEq, false_iff]
    rintro rfl
    exact absurd hdigit (by decide)

-- A text is one decimal at most.
theorem unique (h : IsDecimal text negative whole fraction)
    (h' : IsDecimal text negative' whole' fraction') :
    negative = negative' ∧ whole = whole' ∧ fraction = fraction' := by
  have hsign : negative = negative' := by rw [Bool.eq_iff_iff, h.negative_iff, h'.negative_iff]
  subst hsign
  have hrest := List.append_cancel_left (h.spelled.symm.trans h'.spelled)
  have hwhole {front back : List Char} (hfront : ∀ c ∈ front, c.isDigit = true) :
      (front ++ '.' :: back).takeWhile Char.isDigit = front := by
    rw [List.takeWhile_append_of_pos hfront, List.takeWhile_cons_of_neg (by decide),
      List.append_nil]
  have hsame := congrArg (List.takeWhile Char.isDigit) hrest
  rw [hwhole h.wholeDigits, hwhole h'.wholeDigits] at hsame
  subst hsame
  exact ⟨rfl, rfl, (List.cons.inj (List.append_cancel_left hrest)).2⟩

end IsDecimal

namespace Binary64

-- The digits of a multiple of a negative power of ten.
theorem positional_of_neg {k : Nat} {p : Int} (hp : p < 0) :
    ∃ whole fraction, positional k p = whole ++ '.' :: fraction ∧ whole ≠ [] ∧
      fraction.length = (-p).toNat ∧ (∀ c ∈ whole ++ fraction, c.isDigit = true) ∧
      decimalDigits whole fraction = k := by
  have hplaces : 0 < (-p).toNat := by omega
  simp only [positional, if_neg (Int.not_le.mpr hp)]
  generalize hpadded : List.replicate ((-p).toNat + 1 - (Nat.toDigits 10 k).length) '0' ++
    Nat.toDigits 10 k = padded
  have hlength : (-p).toNat < padded.length := by
    rw [← hpadded, List.length_append, List.length_replicate]
    omega
  refine ⟨_, _, rfl, ?_, ?_, ?_, ?_⟩
  · rw [← List.length_pos_iff, List.length_take]
    omega
  · rw [List.length_drop]
    omega
  · rw [List.take_append_drop, ← hpadded]
    intro c hc
    rcases List.mem_append.mp hc with hzero | hdigit
    · rw [List.eq_of_mem_replicate hzero]
      decide
    · exact Nat.isDigit_of_mem_toDigits (by decide) (by decide) hdigit
  · rw [decimalDigits, List.take_append_drop, ← hpadded, Nat.ofDigitChars_append,
      Nat.ofDigitChars_replicate_zero, Nat.mul_zero, Nat.ofDigitChars_ten_toDigits]

variable {x : Binary64}

-- A whole number is written exactly, with one place.
theorem units_of_isIntegral (h : x.isIntegral = true) :
    x.numerator / x.denominator * 10 * unitsOfOne = sizeAt x.rank * 10 := by
  have hdvd : x.denominator ∣ x.numerator := by
    rw [isIntegral, Bool.and_eq_true_iff, beq_iff_eq] at h
    exact Nat.dvd_of_mod_eq_zero h.2
  refine Nat.eq_of_mul_eq_mul_right x.denominator_pos ?_
  calc x.numerator / x.denominator * 10 * unitsOfOne * x.denominator
      = x.numerator / x.denominator * x.denominator * unitsOfOne * 10 := by ring
    _ = sizeAt x.rank * x.denominator * 10 := by rw [Nat.div_mul_cancel hdvd, numerator_mul]
    _ = sizeAt x.rank * 10 * x.denominator := by ring

-- Any other number is written with the fewest places that it takes.
theorem not_rounds_of_lt {digits places : Nat} (hplaces : x.shortest.2 < -(places : Int)) :
    ¬Rounds (digits * unitsOfOne) (tenTo places) x.rank := by
  have hup : (-(places : Int)).toNat = 0 := by omega
  have hdown : (-(-(places : Int))).toNat = places := by omega
  have hnot := not_contains_of_lt (k := digits) hplaces (by omega)
  rwa [contains_iff_rounds, hup, hdown, tenTo_zero, Nat.mul_one] at hnot

-- What is written of a finite double behind its sign.
theorem render_of_isFinite (hfinite : x.isFinite = true) :
    ∃ k p, p < 0 ∧ x.render = signText x.negative ++ positional k p ∧
      Rounds (k * unitsOfOne) (tenTo (-p).toNat) x.rank ∧
      (x.isIntegral = true → k * unitsOfOne = sizeAt x.rank * tenTo (-p).toNat) ∧
      (x.isIntegral = false → ∀ digits places, places < (-p).toNat →
        ¬Rounds (digits * unitsOfOne) (tenTo places) x.rank) := by
  have hnumber : x.isNaN = false := by
    rw [isFinite, bne_iff_ne] at hfinite
    rw [isNaN, beq_false_of_ne hfinite, Bool.false_and]
  have hsign (size : List Char) :
      (if x.negative then '-' :: size else size) = signText x.negative ++ size := by
    cases x.negative <;> rfl
  cases hintegral : x.isIntegral with
  | true =>
    have hplaces : tenTo (-(-1 : Int)).toNat = 10 := by decide
    have hunits := units_of_isIntegral hintegral
    refine ⟨x.numerator / x.denominator * 10, -1, by decide, ?_, ?_, fun _ => ?_, by simp⟩
    · simp only [render, hnumber, hfinite, hintegral, ← hsign]
      rfl
    · rw [hplaces]
      exact .exact (by decide) hunits
    · rw [hplaces, hunits]
  | false =>
    have hneg := shortest_neg hfinite hintegral
    have hrounds := contains_iff_rounds.mp x.contains_shortest
    have hwhole : x.shortest.2.toNat = 0 := by omega
    rw [hwhole, tenTo_zero, Nat.mul_one] at hrounds
    refine ⟨x.shortest.1, x.shortest.2, hneg, ?_, hrounds, by simp, fun _ _ _ hplaces => ?_⟩
    · simp only [render, hnumber, hfinite, hintegral, ← hsign]
      rfl
    · exact not_rounds_of_lt (by omega)

-- The decimal that a finite double is written as. It rounds to the double and to no other one of
-- the same sign, and it is read so. A whole number is written exactly, any other one with the
-- fewest places from which it can be read.
structure ReadsBack (x : Binary64) (whole fraction : List Char) : Prop where
  spelled : IsDecimal x.text.toList x.negative whole fraction
  nearest : NearestEven (signed x.negative (decimalSize whole fraction)) x
  only : ∀ y : Binary64, y.negative = x.negative →
    NearestEven (signed x.negative (decimalSize whole fraction)) y → y = x
  read : ofQuotient x.negative (decimalDigits whole fraction) (tenTo fraction.length) = x
  integral : x.isIntegral = true → signed x.negative (decimalSize whole fraction) = x.value
  shortest : x.isIntegral = false → ∀ digits places, places < fraction.length →
    ofQuotient x.negative digits (tenTo places) ≠ x

theorem exists_readsBack (hfinite : x.isFinite = true) :
    ∃ whole fraction, x.ReadsBack whole fraction := by
  obtain ⟨k, p, hp, hrender, hrounds, hexact, hshortest⟩ := render_of_isFinite hfinite
  obtain ⟨whole, fraction, htext, hwhole, hlength, hdigits, hk⟩ := positional_of_neg (k := k) hp
  have hfraction : fraction ≠ [] := List.ne_nil_of_length_pos (by omega)
  obtain ⟨hwholeDigits, hfractionDigits⟩ := List.forall_mem_append.mp hdigits
  rw [← hk, ← hlength] at hrounds hexact
  rw [← hlength] at hshortest
  have hnearest := nearestEven_of_rounds (tenTo_pos _) hfinite hrounds
  rw [tenTo_eq, Nat.cast_pow, Nat.cast_ofNat, ← decimalSize] at hnearest
  refine ⟨whole, fraction, ⟨?_, hwhole, hwholeDigits, hfraction, hfractionDigits⟩, hnearest,
    fun y hnegative hy => eq_of_value hnegative (hy.value_unique hnearest),
    (ofQuotient_eq_iff hfinite (tenTo_pos _)).mpr hrounds, fun hintegral => ?_,
    fun hintegral digits places hplaces hread => ?_⟩
  · rw [text, String.toList_ofList, hrender, htext]
  · have hunitsPos : (0 : ℚ) < unitsOfOne := Nat.cast_pos.mpr unitsOfOne_pos
    have hunits : (decimalDigits whole fraction * unitsOfOne : ℚ) =
        sizeAt x.rank * 10 ^ fraction.length := by
      exact_mod_cast hexact hintegral
    rw [value_eq, decimalSize, (div_eq_div_iff (by positivity) hunitsPos.ne').mpr hunits]
  · exact hshortest hintegral digits places hplaces
      ((ofQuotient_eq_iff hfinite (tenTo_pos _)).mp hread)

-- The text of a finite double is a decimal that gives the double back, with its sign. No two of
-- them have the same text, and none has the text of an integer.
theorem text_reads_back (x : Binary64) (hfinite : x.isFinite = true) :
    (∃ whole fraction, x.ReadsBack whole fraction) ∧
      (∀ y : Binary64, y.isFinite = true → y.text = x.text → y = x) ∧
      ¬IsInteger x.text.toList ∧ ∀ i : Int, x.text ≠ toString i := by
  obtain ⟨whole, fraction, h⟩ := exists_readsBack hfinite
  refine ⟨⟨whole, fraction, h⟩, fun y hy htext => ?_, h.spelled.not_isInteger, fun i htext => ?_⟩
  · obtain ⟨whole', fraction', h'⟩ := exists_readsBack hy
    have hspelled := h'.spelled
    rw [htext] at hspelled
    obtain ⟨hnegative, rfl, rfl⟩ := h.spelled.unique hspelled
    rw [← h'.read, ← hnegative, h.read]
  · exact h.spelled.not_isInteger (htext ▸ isInteger_toString i)

-- One tenth is not a double. The one nearest to its negative has its text, and no other one has.
theorem text_reads_back_of_tenth :
    (⟨0xBFB999999999999A⟩ : Binary64).isFinite = true ∧
      (⟨0xBFB999999999999A⟩ : Binary64).text = "-0.1" ∧
      NearestEven (-(1 / 10)) ⟨0xBFB999999999999A⟩ ∧
      ∀ y : Binary64, y.isFinite = true → y.text = "-0.1" → y = ⟨0xBFB999999999999A⟩ := by
  have hfinite : (⟨0xBFB999999999999A⟩ : Binary64).isFinite = true := by decide
  have htext : (⟨0xBFB999999999999A⟩ : Binary64).text = "-0.1" := by decide +kernel
  have hdecimal : IsDecimal "-0.1".toList true ['0'] ['1'] :=
    ⟨by decide, by decide, List.forall_mem_singleton.mpr rfl, by decide,
      List.forall_mem_singleton.mpr rfl⟩
  obtain ⟨⟨whole, fraction, hback⟩, hunique, -⟩ := text_reads_back _ hfinite
  have hspelled := hback.spelled
  rw [htext] at hspelled hunique
  obtain ⟨hnegative, rfl, rfl⟩ := hspelled.unique hdecimal
  refine ⟨hfinite, htext, ?_, hunique⟩
  have hdigits : decimalDigits ['0'] ['1'] = 1 := by decide
  simpa [hnegative, signed, decimalSize, hdigits] using hback.nearest

end Binary64

end TableForge
