import TableForge.Decimal.Power

namespace TableForge

-- A double by its IEEE 754 bits.
structure Binary64 where
  bits : UInt64
  deriving DecidableEq, Repr

namespace Binary64

-- What the sign bit and the lowest bit of the exponent count for among the bits of a double.

abbrev signWeight : Nat := 0x8000000000000000

abbrev exponentWeight : Nat := 0x10000000000000

def negative (x : Binary64) : Bool := signWeight ≤ x.bits.toNat

def exponentField (x : Binary64) : Nat := x.bits.toNat / exponentWeight % 2048

def fraction (x : Binary64) : Nat := x.bits.toNat % exponentWeight

def isFinite (x : Binary64) : Bool := x.exponentField != 2047

def isNaN (x : Binary64) : Bool := x.exponentField == 2047 && x.fraction != 0

-- The size of a finite double is `significand * 2 ^ (scale - 1074)`.
def significand (x : Binary64) : Nat :=
  if x.exponentField = 0 then x.fraction else x.fraction + exponentWeight

def scale (x : Binary64) : Nat := x.exponentField - 1

def numerator (x : Binary64) : Nat := x.significand * twoTo (x.scale - 1074)

def denominator (x : Binary64) : Nat := twoTo (1074 - x.scale)

theorem denominator_pos (x : Binary64) : 0 < x.denominator := Nat.two_pow_pos _

def isIntegral (x : Binary64) : Bool := x.isFinite && x.numerator % x.denominator == 0

def zero (negative : Bool) : Binary64 := ⟨if negative then 0x8000000000000000 else 0⟩

def infinity (negative : Bool) : Binary64 :=
  ⟨if negative then 0xFFF0000000000000 else 0x7FF0000000000000⟩

-- The quotient rounded to the nearest natural number, a half to the even one.
def roundDiv (num den : Nat) : Nat :=
  let q := num / den
  let r := num % den
  if 2 * r < den then q
  else if den < 2 * r then q + 1
  else if q % 2 = 0 then q else q + 1

-- `num / den` in units of `2 ^ (e - 1074)`, rounded.
def roundAt (num den e : Nat) : Nat :=
  roundDiv (num * twoTo (1074 - e)) (den * twoTo (e - 1074))

-- The scale of the double nearest to `num / den`: the least one whose unit leaves at most
-- fifty-three bits before the point.
def scaleFor (num den : Nat) : Nat :=
  let guess := num.log2 + 1021 - den.log2
  let units := num * twoTo (1074 - guess) / (den * twoTo (guess - 1074))
  if units < 2 * exponentWeight then guess else guess + 1

-- The double nearest to `num / den` with the given sign, a half to the even significand, and
-- infinity from half a unit above the largest double on. A significand that rounding carries to
-- fifty-four bits is the first one of the next scale, which the sum spells without a case.
def ofQuotient (negative : Bool) (num den : Nat) : Binary64 :=
  if num = 0 then zero negative else
  let e := scaleFor num den
  let size := e * exponentWeight + roundAt num den e
  if 2047 * exponentWeight ≤ size then infinity negative
  else ⟨UInt64.ofNat (if negative then signWeight + size else size)⟩

def ofInt (i : Int) : Binary64 := ofQuotient (i < 0) i.natAbs 1

def ofDecimal (negative : Bool) (digits : Nat) (exponent : Int) : Binary64 :=
  if digits = 0 then zero negative
  else if 400 < exponent then infinity negative
  else if exponent < -400 - digits.log2 then zero negative
  else ofQuotient negative (digits * tenTo exponent.toNat) (tenTo (-exponent).toNat)

def truncate (x : Binary64) : Int :=
  let size : Int := (x.numerator / x.denominator : Nat)
  if x.negative then -size else size

def neg (x : Binary64) : Binary64 :=
  ⟨UInt64.ofNat (if x.negative then x.bits.toNat - signWeight else x.bits.toNat + signWeight)⟩

end Binary64

end TableForge
