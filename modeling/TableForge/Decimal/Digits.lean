import TableForge.Decimal.Pair

namespace TableForge

-- Decimal digits of a size, and how many of them stand before the point; there are no zeros at
-- the end.
structure Digits where
  digits : List Char
  point : Int

namespace Digits

def increment (s : List Char) : List Char × Bool :=
  s.foldr (fun c (rest, carry) =>
    if !carry then (c :: rest, false)
    else if c = '9' then ('0' :: rest, true)
    else (Char.ofNat (c.toNat + 1) :: rest, false)) ([], true)

def dropZeros (s : List Char) : List Char := (s.reverse.dropWhile (· = '0')).reverse

def roundTo (count : Nat) (d : Digits) : Digits :=
  let kept := d.digits.take count
  if d.digits[count]?.any ('5' ≤ ·) then
    match increment kept with
    | (s, true) => ⟨'1' :: s, d.point + 1⟩
    | (s, false) => ⟨s, d.point⟩
  else ⟨kept, d.point⟩

-- Where a number is to be rounded: behind so many digits, or so many digits behind the point.
inductive Precision where
  | significant (count : Nat)
  | places (count : Nat)
  deriving DecidableEq, Repr

def round (precision : Precision) (most : Nat) (d : Digits) : Digits :=
  let (count, d) : Int × Digits := match precision with
    | .significant n => (n, d)
    | .places n =>
      let count := d.point + n
      if count = 0 && d.digits.head?.any ('5' ≤ ·) then (1, ⟨'0' :: d.digits, d.point + 1⟩)
      else (count, d)
  let d := if 0 < count && (count < d.digits.length || most < d.digits.length) then
      roundTo (min count.toNat most) d
    else d
  { d with digits := dropZeros d.digits }

end Digits

namespace Binary64

-- The size of a positive double scaled by a power of ten to an integer of eighteen or nineteen
-- digits, and the power that undoes it.
def scaled (x : Binary64) : DoublePair × Int :=
  let above (bits : UInt64) (y : Binary64) : Bool := Binary64.less ⟨bits⟩ y
  let below (bits : UInt64) (y : Binary64) : Bool := y.less ⟨bits⟩
  let start : DoublePair := ⟨x, .zero false⟩
  -- the bounds are just below `2 ^ 63` times `10 ^ 100`, `10 ^ 10`, `1`, ..
  if above 0x43DFFFFFFFFFFFFF x then
    let (a, y) := DoublePair.hundredTenths.mulWhile (above 0x58A249AD2594C37C) 4 start
    let (b, y) := DoublePair.tenTenths.mulWhile (above 0x45F2A05F1FFFFFFF) 12 y
    let (c, y) := DoublePair.tenth.mulWhile (above 0x43DFFFFFFFFFFFFF) 12 y
    (y, 100 * a + 10 * b + c)
  else
    let (a, y) := DoublePair.hundredTens.mulWhile (below 0x2EE665BF1D3E6A8C) 4 start
    let (b, y) := DoublePair.tenTens.mulWhile (below 0x4195FD7FE1796495) 12 y
    let (c, y) := DoublePair.ten.mulWhile (below 0x43A9999999999999) 12 y
    (y, -(100 * a + 10 * b + c : Nat))

-- The digits of a finite double without its sign. They come from eighteen or nineteen digits
-- that need not be exact, and are rounded from these.
def digits (precision : Digits.Precision) (most : Nat) (x : Binary64) : Digits :=
  if x.isZero then ⟨['0'], 1⟩
  else
    let (y, power) := scaled x.abs
    let all := Nat.toDigits 10 y.floor
    Digits.round precision most ⟨all, all.length + power⟩

end Binary64

end TableForge
