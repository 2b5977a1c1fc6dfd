import TableForge.Decimal.Binary64

namespace TableForge.Binary64

-- A number that grows with the double; both zeros have the same one.
def orderKey (x : Binary64) : Int :=
  if x.negative then -(x.bits.toNat - signWeight : Nat) else x.bits.toNat

def signedNumerator (x : Binary64) : Int := if x.negative then -x.numerator else x.numerator

def abs (x : Binary64) : Binary64 := if x.negative then x.neg else x

def isZero (x : Binary64) : Bool := x.orderKey = 0

-- An integer beside a double that is no NaN, exactly.
def compareInt (i : Int) (x : Binary64) : Ordering :=
  if !x.isFinite then if x.negative then .gt else .lt
  else compare (i * x.denominator) x.signedNumerator

-- The double nearest to a quotient of integers; `negativeZero` tells the sign of a zero.
def ofSignedQuotient (num : Int) (den : Nat) (negativeZero : Bool) : Binary64 :=
  ofQuotient (if num = 0 then negativeZero else num < 0) num.natAbs den

def ofScaled (size : Int) (e : Int) (negativeZero : Bool) : Binary64 :=
  ofSignedQuotient (size * twoTo e.toNat) (twoTo (-e).toNat) negativeZero

def signedSignificand (x : Binary64) : Int :=
  if x.negative then -x.significand else x.significand

-- Sums, products and quotients are those of the exact numbers, rounded once. Where infinities
-- leave no value there is none, and a NaN has none with anything.

def add? (x y : Binary64) : Option Binary64 :=
  if x.isNaN || y.isNaN then none
  else if x.isFinite && y.isFinite then
    let low := min x.scale y.scale
    let size := x.signedSignificand * twoTo (x.scale - low) +
      y.signedSignificand * twoTo (y.scale - low)
    some (ofScaled size ((low : Int) - 1074) (x.negative && y.negative))
  else if x.isFinite then some y
  else if y.isFinite || x.negative == y.negative then some x
  else none

def sub? (x y : Binary64) : Option Binary64 := x.add? y.neg

def mul? (x y : Binary64) : Option Binary64 :=
  let negative := x.negative != y.negative
  if x.isNaN || y.isNaN then none
  else if x.isFinite && y.isFinite then
    some (ofScaled (x.signedSignificand * y.signedSignificand)
      ((x.scale : Int) + y.scale - 2148) negative)
  else if x.isZero || y.isZero then none
  else some (infinity negative)

def div? (x y : Binary64) : Option Binary64 :=
  let negative := x.negative != y.negative
  if x.isNaN || y.isNaN then none
  else if x.isFinite && y.isFinite then
    if y.numerator = 0 then none
    else
      let num : Int := x.numerator * y.denominator
      some (ofSignedQuotient (if negative then -num else num) (x.denominator * y.numerator)
        negative)
  else if x.isFinite then some (zero negative)
  else if y.isFinite then some (infinity negative)
  else none

-- The same with a NaN for a value that is missing.

def nan : Binary64 := ⟨0x7FF8000000000000⟩

def add (x y : Binary64) : Binary64 := (x.add? y).getD nan

def sub (x y : Binary64) : Binary64 := (x.sub? y).getD nan

def mul (x y : Binary64) : Binary64 := (x.mul? y).getD nan

-- The first double is the smaller one; a NaN is not.
def less (x y : Binary64) : Bool := !x.isNaN && !y.isNaN && x.orderKey < y.orderKey

end TableForge.Binary64
