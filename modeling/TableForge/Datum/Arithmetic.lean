import TableForge.Datum.Affinity

namespace TableForge.Datum

-- A real result; there is no value that is no number.
def ofReal (x : Binary64) : Datum := if x.isNaN then .null else .real x

def ofTruth (b : Option Bool) : Datum := b.elim .null .ofBool

def truthAnd : Option Bool → Option Bool → Option Bool
  | some false, _ | _, some false => some false
  | some true, some true => some true
  | _, _ => none

def truthOr : Option Bool → Option Bool → Option Bool
  | some true, _ | _, some true => some true
  | some false, some false => some false
  | _, _ => none

def integral (i : Int) (r : Option Binary64) : Datum :=
  if Numeral.minInt ≤ i && i ≤ Numeral.maxInt then .int i else r.elim .null .real

def arithmetic (onInts : Int → Int → Int) (onReals : Binary64 → Binary64 → Option Binary64)
    (x y : Datum) : Datum :=
  match x.operand, y.operand with
  | .int i, .int j => integral (onInts i j) (onReals (.ofInt i) (.ofInt j))
  | x, y =>
    match x.toReal?, y.toReal? with
    | some a, some b => (onReals a b).elim .null .real
    | _, _ => .null

def sum : Datum → Datum → Datum := arithmetic (· + ·) Binary64.add?

def difference : Datum → Datum → Datum := arithmetic (· - ·) Binary64.sub?

def product : Datum → Datum → Datum := arithmetic (· * ·) Binary64.mul?

-- A quotient; of two integers it is one. There is none by zero.
def quotient (x y : Datum) : Datum :=
  match x.operand, y.operand with
  | .int i, .int j =>
    if j = 0 then .null else integral (i.tdiv j) (Binary64.div? (.ofInt i) (.ofInt j))
  | x, y =>
    match x.toReal?, y.toReal? with
    | some a, some b => (a.div? b).elim .null .real
    | _, _ => .null

def remainder (x y : Datum) : Datum :=
  let isReal (d : Datum) : Bool := match d.operand with
    | .real _ => true
    | _ => false
  match x.toInt?, y.toInt? with
  | some i, some j =>
    if j = 0 then .null
    else if isReal x || isReal y then .real (.ofInt (i.tmod j))
    else .int (i.tmod j)
  | _, _ => .null

def bitsOf (i : Int) : Nat := (i % Numeral.wordSize).toNat

def ofBits (n : Nat) : Int := Int.bmod n Numeral.wordSize

def shift (i j : Int) : Int :=
  if 0 ≤ j then if 64 ≤ j then 0 else ofBits (bitsOf i <<< j.toNat)
  else if j ≤ -64 then if i < 0 then -1 else 0
  else i.fdiv (twoTo (-j).toNat)

def onInts (f : Int → Int → Int) (x y : Datum) : Datum :=
  match x.toInt?, y.toInt? with
  | some i, some j => .int (f i j)
  | _, _ => .null

def concatenation (x y : Datum) : Datum :=
  match x.bytes?, y.bytes? with
  | some s, some t => .text (s ++ t)
  | _, _ => .null

-- The operands as a comparison sees them. Texts become numbers for a numeric affinity; numbers
-- become texts for that of texts, when the other operand is a text.
def comparable (a : Affinity) (x y : Datum) : Datum × Datum :=
  let isText (d : Datum) : Bool := match d with
    | .text _ => true
    | _ => false
  match a with
  | .blob => (x, y)
  | .text => if isText x || isText y then (x.toText, y.toText) else (x, y)
  | _ => (x.toNumeric, y.toNumeric)

end TableForge.Datum
