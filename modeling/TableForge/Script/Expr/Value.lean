import TableForge.Datum.Arithmetic
import TableForge.Script.Expr.Basic

namespace TableForge.Script

def BinaryOp.accepts (op : BinaryOp) (order : Ordering) : Bool :=
  match op with
  | .eq | .is => order == .eq
  | .ne | .isNot => order != .eq
  | .lt => order == .lt
  | .le => order != .gt
  | .gt => order == .gt
  | _ => order != .lt

def BinaryOp.isDecidedBy : BinaryOp → Option Bool → Bool
  | .and, truth => truth = some false
  | .or, truth => truth = some true
  | _, _ => false

namespace Expr

def unaryValue : UnaryOp → Datum → Datum
  | .negate, d => .difference (.int 0) d
  | .plus, d => d
  | .not, d => .ofTruth (d.truth?.map (!·))
  | .bitNot, d => (d.toInt?).elim .null fun i => .int (-i - 1)
  | .isNull, d => .ofBool d.isNull
  | .notNull, d => .ofBool (!d.isNull)

-- What a comparison of the values of two expressions gives; only IS and IS NOT tell about nulls.
def comparison (op : BinaryOp) (l r : Expr) (x y : Datum) : Datum :=
  let (a, b) := Datum.comparable (comparisonAffinity l r) x y
  let result := Datum.ofBool (op.accepts (Datum.compare (comparisonCollation l r) a b))
  match op with
  | .is | .isNot => result
  | _ => if x.isNull || y.isNull then .null else result

def binaryValue (op : BinaryOp) (l r : Expr) (x y : Datum) : Datum :=
  match op with
  | .or => .ofTruth (Datum.truthOr x.truth? y.truth?)
  | .and => .ofTruth (Datum.truthAnd x.truth? y.truth?)
  | .is | .isNot | .eq | .ne | .lt | .le | .gt | .ge => comparison op l r x y
  | .add => .sum x y
  | .sub => .difference x y
  | .mul => .product x y
  | .div => .quotient x y
  | .rem => .remainder x y
  | .concat => .concatenation x y
  | .bitAnd => .onInts (fun i j => Datum.ofBits (Datum.bitsOf i &&& Datum.bitsOf j)) x y
  | .bitOr => .onInts (fun i j => Datum.ofBits (Datum.bitsOf i ||| Datum.bitsOf j)) x y
  | .shiftLeft => .onInts Datum.shift x y
  | .shiftRight => .onInts (fun i j => Datum.shift i (-j)) x y

def membershipValue (e : Expr) (x : Datum) (candidates : List Datum) : Datum :=
  let matching (y : Datum) : Bool :=
    let (a, b) := Datum.comparable ((e.affinity?).getD .blob) x y
    Datum.same ((e.collation?).getD .binary) a b
  if candidates.isEmpty then .ofBool false
  else if x.isNull then .null
  else if candidates.any fun y => !y.isNull && matching y then .ofBool true
  else if candidates.any Datum.isNull then .null
  else .ofBool false

def wholeValue (n : Nat) : Datum :=
  if (n : Int) ≤ Numeral.maxInt then .int n else .real (.ofInt n)

-- The integer of hexadecimal digits, which must not be too many.
def bitsValue? (n : Nat) : Option Datum :=
  if n < Numeral.wordSize then some (.int (Datum.ofBits n)) else none

def plain (d : Datum) : Operand := { datum := d }

mutual

-- The value of an expression for a row of columns; none if it is refused. For a condition only its
-- truth counts, and where the left side of AND or OR decides, the right one is not looked at.
def value? (asCondition : Bool) (c : Circumstances) (row : List Datum) : Expr → Option Operand
  | .literal d => some (plain d)
  | .whole n => some (plain (wholeValue n))
  | .bits n => (bitsValue? n).map plain
  | .parameter => some (plain .null)
  | .name .. | .row _ | .callOnce .. | .query => none
  | .column i _ _ => (row[i]?).map plain
  | .unary .negate (.whole n) => some (plain (.int (-n)))
  | .unary .negate (.literal (.real x)) => some (plain (.real x.neg))
  | .unary .negate (.bits n) => do
    if (n : Int) = -Numeral.minInt then none
    return plain (unaryValue .negate (← bitsValue? n))
  | .unary .plus e => value? false c row e
  | .unary op e => do
    return plain (unaryValue op (← value? (asCondition && op = .not) c row e).datum)
  | .binary op l r => do
    let asCondition := asCondition && (op = .and || op = .or)
    let x := (← value? asCondition (c.inside 0) row l).datum
    if asCondition && op.isDecidedBy x.truth? then return plain (.ofTruth x.truth?)
    return plain (binaryValue op l r x (← value? asCondition (c.inside 1) row r).datum)
  | .truth e wanted negated => do
    let found := (← value? false c row e).datum.truth?
    return plain (.ofBool ((found == some wanted) != negated))
  | .collate e _ => value? false c row e
  | .cast e a => do return plain (a.cast (← value? false c row e).datum)
  | .between e low high => do
    let x := (← value? false (c.inside 0) row e).datum
    let above := comparison .ge e low x (← value? false (c.inside 1) row low).datum
    let below := comparison .le e high x (← value? false (c.inside 2) row high).datum
    return plain (.ofTruth (Datum.truthAnd above.truth? below.truth?))
  | .isIn e items => do
    let x := (← value? false (c.inside 0) row e).datum
    let found ← (values (c.inside 1) row items).mapM id
    return plain (membershipValue e x (found.map (·.datum)))
  | .cases branches => firstCase? c row branches
  | .casesOf subject branches => do
    let x := (← value? false (c.inside 0) row subject).datum
    firstEqual? (c.inside 1) row subject x branches
  | .call f arguments => do
    (← Function.find? f arguments.length).result?
      ((arguments.findSome? collation?).getD .binary) c (values c row arguments)
termination_by structural e => e

def values (c : Circumstances) (row : List Datum) : List Expr → List (Option Operand)
  | [] => []
  | e :: rest => value? false (c.inside 0) row e :: values (c.inside 1) row rest
termination_by structural l => l

def firstCase? (c : Circumstances) (row : List Datum) : List Expr → Option Operand
  | [] => some (plain .null)
  | [otherwise] => value? false c row otherwise
  | condition :: value :: rest => do
    if (← value? true (c.inside 0) row condition).datum.truth? = some true then
      value? false (c.inside 1) row value
    else firstCase? (c.inside 2) row rest
termination_by structural l => l

def firstEqual? (c : Circumstances) (row : List Datum) (subject : Expr) (x : Datum) :
    List Expr → Option Operand
  | [] => some (plain .null)
  | [otherwise] => value? false c row otherwise
  | candidate :: value :: rest => do
    let y := (← value? false (c.inside 0) row candidate).datum
    if (comparison .eq subject candidate x y).truth? = some true then
      value? false (c.inside 1) row value
    else firstEqual? (c.inside 2) row subject x rest
termination_by structural l => l

end

def eval? (c : Circumstances) (row : List Datum) (e : Expr) : Option Operand := value? false c row e

-- Whether a condition holds.
def test? (c : Circumstances) (row : List Datum) (e : Expr) : Option (Option Bool) :=
  (value? true c row e).map (·.datum.truth?)

-- Hexadecimal digits of the least integer, which has no negative.
def isLeastInteger : Expr → Bool
  | .bits n => (n : Int) = -Numeral.minInt
  | _ => false

mutual

-- The expression can be evaluated for some row, whatever its values are: it has no unknown
-- collation, no row without a comparison and no digits beyond what an integer has.
def isUsable : Expr → Bool
  | .name .. | .row _ | .callOnce .. | .query => false
  | .bits n => n < Numeral.wordSize
  | .literal _ | .whole _ | .parameter | .column .. => true
  | .unary op e => !(op = .negate && isLeastInteger e) && isUsable e
  | .truth e _ _ | .cast e _ => isUsable e
  | .collate e c => c.isSome && isUsable e
  | .binary _ l r => isUsable l && isUsable r
  | .between e low high => isUsable e && isUsable low && isUsable high
  | .isIn e l | .casesOf e l => isUsable e && areUsable l
  | .cases l => areUsable l
  | .call f l => (Function.find? f l.length).isSome && areUsable l

def areUsable : List Expr → Bool
  | [] => true
  | e :: rest => isUsable e && areUsable rest

end

end Expr

end TableForge.Script
