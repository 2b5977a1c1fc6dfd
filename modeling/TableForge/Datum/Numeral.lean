import TableForge.Datum.Basic
import TableForge.Decimal.Printed

namespace TableForge

structure Numeral where
  negative : Bool
  -- digits in front of the point and behind it
  whole : List Char
  fraction : List Char
  -- the power of ten that is written with the number
  exponent : Int
  -- written without a point and without an exponent
  isWhole : Bool
  deriving DecidableEq, Repr

namespace Numeral

-- The range of integers, which have sixty-four bits.

def wordSize : Nat := 0x10000000000000000

def minInt : Int := -0x8000000000000000

def maxInt : Int := 0x7FFFFFFFFFFFFFFF

def isSpace (c : Char) : Bool := c = ' ' || (9 ≤ c.toNat && c.toNat ≤ 13)

def valueOf (start : Nat) (digits : List Char) : Nat :=
  digits.foldl (fun n c => n * 10 + (c.toNat - '0'.toNat)) start

-- An exponent with at least one digit, and the text after it. It grows no further once it has
-- five digits.
def readExponent (s : List Char) : Option (Int × List Char) :=
  match s with
  | e :: rest =>
    if e ≠ 'e' && e ≠ 'E' then none
    else
      let negative := rest.head? = some '-'
      let body := if negative || rest.head? = some '+' then rest.tail else rest
      match body.takeWhile Char.isDigit with
      | [] => none
      | digits =>
        let size : Int := digits.foldl
          (fun n c => if n < 10000 then n * 10 + (c.toNat - '0'.toNat) else 10000) 0
        some (if negative then -size else size, body.dropWhile Char.isDigit)
  | [] => none

def readUnspaced (s : List Char) : Option (Numeral × List Char) :=
  let negative := s.head? = some '-'
  let body := if negative || s.head? = some '+' then s.tail else s
  let whole := body.takeWhile Char.isDigit
  let rest := body.dropWhile Char.isDigit
  let fraction := if rest.head? = some '.' then rest.tail.takeWhile Char.isDigit else []
  let hasPoint := rest.head? = some '.'
  let rest := if hasPoint then rest.tail.dropWhile Char.isDigit else rest
  if whole.isEmpty && fraction.isEmpty then none
  else
    match readExponent rest with
    | some (e, rest) => some (⟨negative, whole, fraction, e, false⟩, rest)
    | none => some (⟨negative, whole, fraction, 0, !hasPoint⟩, rest)

def read (s : List Char) : Option (Numeral × List Char) := readUnspaced (s.dropWhile isSpace)

def readAll (s : List Char) : Option Numeral :=
  match read s with
  | some (n, rest) => if rest.all isSpace then some n else none
  | none => none

-- From this size on a further digit might not fit into sixty-four bits.
def fullSize : Nat := (wordSize - 10) / 10

-- The digits in front of the point that fit into sixty-four bits, and how many do not.
def leadingDigits : Nat → List Char → Nat × Nat
  | n, [] => (n, 0)
  | n, c :: rest =>
    let next := n * 10 + (c.toNat - '0'.toNat)
    if fullSize ≤ next then (next, rest.length) else leadingDigits next rest

def moreDigits : Nat → List Char → Nat × Nat
  | n, [] => (n, 0)
  | n, c :: rest =>
    if n < fullSize then
      let (m, count) := moreDigits (n * 10 + (c.toNat - '0'.toNat)) rest
      (m, count + 1)
    else (n, 0)

-- A size times a power of ten with an exponent nearer to zero, as far as the size has room.
def rebalance : Nat → Nat → Int → Nat × Int
  | 0, n, e => (n, e)
  | fuel + 1, n, e =>
    if 0 < e && n < (wordSize - 0x800) / 10 then rebalance fuel (n * 10) (e - 1)
    else if e < 0 && n % 10 = 0 then rebalance fuel (n / 10) (e + 1)
    else (n, e)

-- A double near to the number. Digits that do not fit into sixty-four bits do not count, and
-- the power of ten is multiplied in with a little more than the precision of a double.
def toReal (n : Numeral) : Binary64 :=
  let (size, dropped) := leadingDigits 0 n.whole
  let (size, added) := moreDigits size n.fraction
  if size = 0 then .zero n.negative
  else
    let (size, e) := rebalance 20 size (n.exponent + dropped - added)
    let x := (DoublePair.ofNat size).mulPower e
    let sum := x.high.add x.low
    let sum := if sum.isNaN then .infinity false else sum
    if n.negative then sum.neg else sum

def size (n : Numeral) : Nat := valueOf (valueOf 0 n.whole) n.fraction

def toInt? (n : Numeral) : Option Int :=
  let i : Int := if n.negative then -n.size else n.size
  if n.isWhole && minInt ≤ i && i ≤ maxInt then some i else none

-- An integer if it can be one as it is written, otherwise a real.
def toDatum (n : Numeral) : Datum :=
  match n.toInt? with
  | some i => .int i
  | none => .real n.toReal

end Numeral

namespace Datum

-- The ASCII characters of a text; other bytes become characters that no number has.
def chars (bytes : List UInt8) : List Char := bytes.map fun b => Char.ofNat b.toNat

def wholeReal (x : Binary64) : Datum :=
  if x.isIntegral && Numeral.minInt < x.truncate && x.truncate < Numeral.maxInt then
    .int x.truncate
  else .real x

def toNumeric : Datum → Datum
  | .text s =>
    match Numeral.readAll (chars s) with
    | none => .text s
    | some n =>
      match n.toInt? with
      | some i => .int i
      | none => wholeReal n.toReal
  | .real x => wholeReal x
  | d => d

def toText : Datum → Datum
  | .int i => ofText (toString i)
  | .real x => ofText (String.ofList x.columnText)
  | d => d

-- The bytes of a value's text; none for a null.
def bytes? (d : Datum) : Option (List UInt8) :=
  match d.toText with
  | .text s | .blob s => some s
  | _ => none

def leadingNumber (s : List UInt8) : Datum :=
  match Numeral.read (chars s) with
  | some (n, _) => n.toDatum
  | none => .int 0

def operand : Datum → Datum
  | .text s | .blob s => leadingNumber s
  | d => d

def clamp (i : Int) : Int := max Numeral.minInt (min Numeral.maxInt i)

def truncateReal (x : Binary64) : Int :=
  if x.isFinite then clamp x.truncate
  else if x.negative then Numeral.minInt else Numeral.maxInt

def leadingInt (s : List UInt8) : Int :=
  let body := (chars s).dropWhile Numeral.isSpace
  let negative := body.head? = some '-'
  let unsigned := if negative || body.head? = some '+' then body.tail else body
  let digits := unsigned.takeWhile Char.isDigit
  let size : Int := Numeral.valueOf 0 digits
  clamp (if negative then -size else size)

-- The value as an integer; none for a null.
def toInt? : Datum → Option Int
  | .null => none
  | .int i => some i
  | .real x => some (truncateReal x)
  | .text s | .blob s => some (leadingInt s)

-- The number in front of a text; an integer if it is one, as long as that is small enough.
def leadingNumeric (s : List UInt8) : Datum :=
  match leadingNumber s with
  | .real x =>
    let i := truncateReal x
    if x.isZero then .int 0
    else if Binary64.ofInt i = x && -0x8000000000000 ≤ i && i < 0x8000000000000 then .int i
    else .real x
  | d => d

-- The value as a real; none for a null.
def toReal? (d : Datum) : Option Binary64 :=
  match d.operand with
  | .int i => some (Binary64.ofInt i)
  | .real x => some x
  | _ => none

-- Whether a condition holds; none for a null.
def truth? (d : Datum) : Option Bool :=
  match d.operand with
  | .int i => some (i ≠ 0)
  | .real x => some (x.orderKey ≠ 0)
  | _ => none

end Datum

end TableForge
