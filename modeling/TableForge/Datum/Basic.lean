import TableForge.Decimal.Arithmetic
import TableForge.Text.Utf8

namespace TableForge

-- A value in a table of the schema. Texts are kept as bytes, which need not spell characters.
inductive Datum where
  | null
  | int (i : Int)
  | real (x : Binary64)
  | text (bytes : List UInt8)
  | blob (bytes : List UInt8)
  deriving DecidableEq, Repr

inductive Collation where
  | binary
  -- without regard to the case of ASCII letters
  | noCase
  -- without regard to blanks at the end
  | rightTrim
  deriving DecidableEq, Repr

namespace Collation

def ofName? (name : String) : Option Collation :=
  match name.toLower with
  | "binary" => some .binary
  | "nocase" => some .noCase
  | "rtrim" => some .rightTrim
  | _ => none

def foldByte (b : UInt8) : UInt8 := if 0x41 ≤ b && b ≤ 0x5A then b + 32 else b

def fold : Collation → List UInt8 → List UInt8
  | .binary, s => s
  | .noCase, s => s.map foldByte
  | .rightTrim, s => (s.reverse.dropWhile (· = 0x20)).reverse

end Collation

namespace Datum

def ofText (s : String) : Datum := .text (Text.Utf8.encode s)

def ofBool (b : Bool) : Datum := .int (if b then 1 else 0)

-- The order of byte strings: the first byte that differs decides.
def compareBytes : List UInt8 → List UInt8 → Ordering
  | [], [] => .eq
  | [], _ :: _ => .lt
  | _ :: _, [] => .gt
  | a :: s, b :: t => if a < b then .lt else if b < a then .gt else compareBytes s t

-- Nulls come first, then numbers, texts and blobs.
def rank : Datum → Nat
  | .null => 0
  | .int _ | .real _ => 1
  | .text _ => 2
  | .blob _ => 3

-- The order of values under a collation. Integers and reals are compared exactly.
def compare (c : Collation) (a b : Datum) : Ordering :=
  match a, b with
  | .int i, .int j => Ord.compare i j
  | .int i, .real y => Binary64.compareInt i y
  | .real x, .int j => (Binary64.compareInt j x).swap
  | .real x, .real y => Ord.compare x.orderKey y.orderKey
  | .text s, .text t => compareBytes (c.fold s) (c.fold t)
  | .blob s, .blob t => compareBytes s t
  | a, b => Ord.compare a.rank b.rank

-- The two values are the same under a collation; a null is the same as a null.
def same (c : Collation) (a b : Datum) : Bool := compare c a b == .eq

def isNull : Datum → Bool
  | .null => true
  | _ => false

end Datum

end TableForge
