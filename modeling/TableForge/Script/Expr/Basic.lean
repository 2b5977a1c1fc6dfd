import TableForge.Function.Library

namespace TableForge.Script

inductive UnaryOp where
  | negate
  | plus
  | not
  | bitNot
  | isNull
  | notNull
  deriving DecidableEq, Repr

inductive BinaryOp where
  | or
  | and
  | eq
  | ne
  | lt
  | le
  | gt
  | ge
  | is
  | isNot
  | add
  | sub
  | mul
  | div
  | rem
  | concat
  | bitAnd
  | bitOr
  | shiftLeft
  | shiftRight
  deriving DecidableEq, Repr

-- How a name is written: in no quotes, in double ones, which may also stand around a text, or in
-- other ones.
inductive Quoting where
  | bare
  | double
  | other
  deriving DecidableEq, Repr

inductive Expr where
  | literal (d : Datum)
  -- decimal digits, which may be one too many for an integer without a sign
  | whole (n : Nat)
  -- hexadecimal digits, which give the bits of an integer
  | bits (n : Nat)
  -- a value that is still to be given
  | parameter
  -- a name with the names of the schema and the table before it, as far as they are given
  | name (owners : List String) (column : String) (quoting : Quoting)
  -- a column of the row at hand, once its name has been looked up; the number of a row has no
  -- collation
  | column (index : Nat) (affinity : Affinity) (collation : Option Collation)
  -- several values in parentheses
  | row (items : List Expr)
  | unary (op : UnaryOp) (e : Expr)
  | binary (op : BinaryOp) (l r : Expr)
  -- the test for one of the truth values, or for anything else
  | truth (e : Expr) (wanted negated : Bool)
  -- a collation that is not known is none
  | collate (e : Expr) (c : Option Collation)
  | cast (e : Expr) (a : Affinity)
  | between (e low high : Expr)
  | isIn (e : Expr) (items : List Expr)
  -- conditions and values in turn; one more expression at the end is the value otherwise
  | cases (branches : List Expr)
  -- the same with values that the subject is compared with instead of conditions
  | casesOf (subject : Expr) (branches : List Expr)
  | call (function : String) (arguments : List Expr)
  -- a call that looks at each value of several rows once
  | callOnce (function : String) (argument : Expr)
  -- what needs the rows of other tables, or several rows at once, and has no value here
  | query
  deriving Repr

namespace Expr

def isZero : Expr → Bool
  | .whole 0 | .bits 0 => true
  | _ => false

-- Both must hold. What is joined with the literal zero is zero.
def both (l r : Expr) : Expr :=
  if l.isZero || r.isZero then .whole 0 else .binary .and l r

-- A sign before an expression; a plus sign before it has no effect.
def signed (op : UnaryOp) : Expr → Expr
  | .unary .plus e => .unary op e
  | e => .unary op e

mutual

-- How deep the parts of an expression lie in one another. A collation starts afresh.
def height : Expr → Nat
  | .row l | .cases l | .call _ l => greatestHeight l + 1
  | .unary _ e | .truth e _ _ | .cast e _ | .callOnce _ e => height e + 1
  | .binary _ l r => max (height l) (height r) + 1
  | .between e low high => max (height e) (max (height low) (height high)) + 1
  | .isIn e l | .casesOf e l => max (height e) (greatestHeight l) + 1
  | _ => 1

def greatestHeight : List Expr → Nat
  | [] => 0
  | e :: rest => max (height e) (greatestHeight rest)

end

-- Expressions that are deeper than this are refused.
def heightLimit : Nat := 1000

mutual

def isCollated : Expr → Bool
  | .collate .. => true
  | .row l | .cases l | .call _ l => anyCollated l
  | .unary _ e | .truth e _ _ | .cast e _ => isCollated e
  | .binary _ l r => isCollated l || isCollated r
  | .between e low high => isCollated e || isCollated low || isCollated high
  | .isIn e l | .casesOf e l => isCollated e || anyCollated l
  | _ => false

def anyCollated : List Expr → Bool
  | [] => false
  | e :: rest => isCollated e || anyCollated rest

end

mutual

-- The collation that an expression has: that of a column, or else the first one that is written
-- in it.
def collation? : Expr → Option Collation
  | .column _ _ c => c
  | .collate _ c => c
  | .cast e _ | .unary .plus e => collation? e
  | .unary _ e | .truth e _ _ => if isCollated e then collation? e else none
  | .row l => firstCollation? l
  | .binary _ l r =>
    if isCollated l then collation? l else if isCollated r then collation? r else none
  | .between e low high =>
    if isCollated e then collation? e
    else if isCollated low then collation? low
    else if isCollated high then collation? high
    else none
  | .isIn e l | .casesOf e l => if isCollated e then collation? e else writtenCollation? l
  | .cases l | .call _ l => writtenCollation? l
  | _ => none

def firstCollation? : List Expr → Option Collation
  | [] => none
  | e :: _ => collation? e

def writtenCollation? : List Expr → Option Collation
  | [] => none
  | e :: rest => if isCollated e then collation? e else writtenCollation? rest

end

-- The collation of a comparison. One that is written goes before that of a column, and the left
-- side before the right one.
def comparisonCollation (l r : Expr) : Collation :=
  let found :=
    if l.isCollated then l.collation?
    else if r.isCollated then r.collation?
    else l.collation?.or r.collation?
  found.getD .binary

-- The affinity of an expression, which only columns and casts have.
def affinity? : Expr → Option Affinity
  | .column _ a _ => some a
  | .cast _ a => some a
  | .collate e _ => e.affinity?
  | _ => none

def comparisonAffinity (l r : Expr) : Affinity :=
  match l.affinity?, r.affinity? with
  | some a, some b => if a.isNumeric || b.isNumeric then .numeric else .blob
  | some a, none | none, some a => if a.isNumeric then .numeric else a
  | none, none => .blob

def truthOf? (name : String) : Option Bool :=
  if Text.sameLetters name "TRUE" then some true
  else if Text.sameLetters name "FALSE" then some false
  else none

mutual

-- The value of the expression does not depend on a row, before names are looked up. Where
-- `anyFunction` tells so functions do not count, otherwise they must give the same for the same
-- arguments; where `parameters` tells so they count as values.
def isConstant (anyFunction parameters : Bool) : Expr → Bool
  | .literal _ | .whole _ | .bits _ => true
  | .parameter => parameters
  | .name owners written quoting =>
    owners.isEmpty && quoting = .bare && (truthOf? written).isSome
  | .column .. | .query => false
  | .callOnce _ e => anyFunction && isConstant anyFunction parameters e
  | .row l | .cases l => areConstant anyFunction parameters l
  | .unary _ e | .truth e _ _ | .collate e _ | .cast e _ => isConstant anyFunction parameters e
  | .binary _ l r => isConstant anyFunction parameters l && isConstant anyFunction parameters r
  | .between e low high =>
    isConstant anyFunction parameters e && isConstant anyFunction parameters low &&
      isConstant anyFunction parameters high
  | .isIn e l | .casesOf e l =>
    isConstant anyFunction parameters e && areConstant anyFunction parameters l
  | .call f l =>
    (anyFunction || (Function.find? f l.length).any (·.stability ≠ .fleeting)) &&
      areConstant anyFunction parameters l

def areConstant (anyFunction parameters : Bool) : List Expr → Bool
  | [] => true
  | e :: rest =>
    isConstant anyFunction parameters e && areConstant anyFunction parameters rest

end

mutual

def positions : Expr → List Nat
  | .column i _ _ => [i]
  | .row l | .cases l | .call _ l => allPositions l
  | .unary _ e | .truth e _ _ | .collate e _ | .cast e _ => positions e
  | .binary _ l r => positions l ++ positions r
  | .between e low high => positions e ++ positions low ++ positions high
  | .isIn e l | .casesOf e l => positions e ++ allPositions l
  | _ => []

def allPositions : List Expr → List Nat
  | [] => []
  | e :: rest => positions e ++ allPositions rest

end

end Expr

end TableForge.Script
