import TableForge.Decimal.Digits

namespace TableForge

namespace RealStyle

inductive Form where
  | fixed
  | exponential
  | general
  deriving DecidableEq, Repr

end RealStyle

structure RealStyle where
  form : RealStyle.Form
  -- how many digits stand behind the point, or in the general form all together
  precision : Nat
  -- the sign of a number that is not negative
  sign : Option Char := none
  -- the point and zeros at the end stay
  alternate : Bool := false
  -- more digits, and one behind the point in any case
  full : Bool := false
  -- commas between groups of three digits
  grouped : Bool := false
  -- zeros fill the number up to this width
  zeroWidth : Option Nat := none
  -- the mark of an exponent
  mark : Char := 'e'

namespace RealStyle

def digitsOf (style : RealStyle) (x : Binary64) : Digits :=
  let precision : Digits.Precision := match style.form with
    | .fixed => .places style.precision
    | .exponential => .significant (style.precision + 1)
    | .general => .significant (max style.precision 1)
  x.digits precision (if style.full then 26 else 16)

def wholePart (grouped : Bool) (e : Nat) (s : List Char) : List Char :=
  let digit (i : Nat) := s.getD i '0'
  (List.range (e + 1)).flatMap fun i =>
    let rest := e - i
    if grouped && rest % 3 = 0 && 1 < rest then [digit i, ','] else [digit i]

def trimZeros (full : Bool) (s : List Char) : List Char :=
  let kept := Digits.dropZeros s
  if kept.getLast? = some '.' then if full then kept ++ ['0'] else kept.dropLast else kept

def exponentText (mark : Char) (e : Int) : List Char :=
  let digits := Nat.toDigits 10 e.natAbs
  mark :: (if e < 0 then '-' else '+') :: (List.replicate (2 - digits.length) '0' ++ digits)

-- The digits written out with their point and an exponent if the form has one. `places` digits
-- stand behind the point; zeros at the end are dropped if `trimmed` tells so.
def layOut (style : RealStyle) (withExponent trimmed : Bool) (places : Nat) (d : Digits) :
    List Char :=
  let e := if withExponent then 0 else d.point - 1
  let whole := if e < 0 then ['0'] else wholePart style.grouped e.toNat d.digits
  let used := if e < 0 then 0 else e.toNat + 1
  let zeros := min (-(e + 1)).toNat places
  let fraction := List.replicate zeros '0' ++
    (List.range (places - zeros)).map fun i => d.digits.getD (used + i) '0'
  let hasPoint := 0 < places || style.alternate || style.full
  let body := whole ++ if hasPoint then '.' :: fraction else []
  let body := if trimmed && hasPoint then trimZeros style.full body else body
  if withExponent then body ++ exponentText style.mark (d.point - 1) else body

def size (style : RealStyle) (d : Digits) : List Char :=
  match style.form with
  | .fixed => style.layOut false style.full style.precision d
  | .exponential => style.layOut true style.full style.precision d
  | .general =>
    let places := max style.precision 1 - 1
    let e := d.point - 1
    if e < -4 || places < e then style.layOut true (!style.alternate) places d
    else style.layOut false (!style.alternate) (places - e).toNat d

-- A sign before a number, with zeros between them if it is to have a certain width.
def signed (style : RealStyle) (sign : Option Char) (s : List Char) : List Char :=
  let zeros := (style.zeroWidth.getD 0) - s.length - sign.toList.length
  sign.toList ++ List.replicate zeros '0' ++ s

end RealStyle

namespace Binary64

-- A real in a style. An infinite one that is filled up with zeros counts as very large.
def printed (style : RealStyle) (x : Binary64) : List Char :=
  if x.isNaN then if style.zeroWidth.isSome then "null".toList else "NaN".toList
  else
    let negative := x.negative && !x.isZero
    let sign := if negative then some '-' else style.sign
    if x.isFinite then
      let d := style.digitsOf x
      let hidden := style.alternate && style.sign.isNone && style.form = .fixed &&
        d.point ≤ -(style.precision : Int)
      style.signed (if negative && hidden then none else sign) (style.size d)
    else if style.zeroWidth.isSome then style.signed sign (style.size ⟨['9'], 1000⟩)
    else sign.toList ++ "Inf".toList

-- The text of a real among other texts: fifteen significant digits, and always a point.
def columnText (x : Binary64) : List Char :=
  x.printed { form := .general, precision := 15, full := true }

end Binary64

end TableForge
