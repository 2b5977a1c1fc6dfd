import TableForge.Script.Expr.Value
import TableForge.Store.Basic

namespace TableForge.Store

open Script (Expr BinaryOp Quoting)

-- Where an expression stands, which decides what it may name.
inductive Setting where
  | check
  | generated
  -- a part of the key of an index
  | indexed
  -- the condition of an index
  | partialIndex
  | query
  | default
  deriving DecidableEq, Repr

structure Scope where
  setting : Setting
  temporary : Bool
  table : String
  columns : List StoredColumn
  -- the position of the number of the row, if there is one
  rowid : Option Nat
  -- names of expressions, for what is no column
  named : List (String × Expr)

namespace Scope

def alone (setting : Setting) : Scope := ⟨setting, false, "", [], none, []⟩

-- Names of the number of a row, unless a column has them.
def rowidNames : List String := ["ROWID", "OID", "_ROWID_"]

def ofTable (setting : Setting) (t : StoredTable) : Scope :=
  { setting
    temporary := t.temporary
    table := t.name
    columns := t.columns
    rowid := if t.withoutRowid then none else some (t.rowidColumn.getD t.columns.length)
    named := [] }

-- A column as an expression. One that is the number of the row has no collation.
def columnAt? (scope : Scope) (i : Nat) : Option Expr :=
  (scope.columns[i]?).map fun c =>
    .column i c.affinity (if scope.rowid = some i then none else some c.collation)

-- The expression must be the same at all times and for the row alone, so that neither its table
-- nor its number can be named in it.
def isOwn (scope : Scope) : Bool := scope.setting = .generated || scope.setting = .indexed

-- The names before the name of a column are those of the table. The schema only counts in a
-- query.
def isOwner (scope : Scope) : List String → Bool
  | [] => true
  | [table] => !scope.isOwn && Text.sameLetters table scope.table
  | [schema, table] =>
    !scope.isOwn && Text.sameLetters table scope.table &&
      (scope.setting ≠ .query || (schemas (some schema)).contains scope.temporary)
  | _ => false

def columnNamed? (scope : Scope) (owners : List String) (written : String) : Option Expr :=
  if !scope.isOwner owners then none
  else
    match scope.columns.findIdx? fun c => Text.sameLetters c.name written with
    | some i => scope.columnAt? i
    | none =>
      if scope.isOwn || !rowidNames.any (Text.sameLetters written) then none
      else (scope.rowid).map fun i => .column i .integer none

-- What a name means. A text in double quotes that is no column stands for itself, and so do the
-- truth values.
def lookUp? (scope : Scope) (owners : List String) (written : String) (quoting : Quoting) :
    Option Expr :=
  match scope.columnNamed? owners written with
  | some e => some e
  | none =>
    if !owners.isEmpty then none
    else
      match scope.named.find? fun (name, _) => Text.sameLetters name written, quoting with
      | some (_, e), _ => some e
      | none, .double => some (.literal (.ofText written))
      | none, .bare => (Expr.truthOf? written).map fun b => .literal (.ofBool b)
      | none, .other => none

def withoutCollations : Expr → Expr
  | .collate e _ => withoutCollations e
  | e => e

-- The truth value that a test is for: the word for it on the right side, unless a column has
-- that name.
def wantedTruth? (scope : Scope) (op : BinaryOp) (right : Expr) : Option Bool :=
  if scope.setting = .default || !(op = .is || op = .isNot) then none
  else
    match withoutCollations right with
    | .name [] written .bare =>
      if (scope.columnNamed? [] written).isSome then none else Expr.truthOf? written
    | _ => none

def isComparison (op : BinaryOp) : Bool :=
  [.eq, .ne, .lt, .le, .gt, .ge, .is, .isNot].contains op

def strictly : BinaryOp → BinaryOp
  | .le => .lt
  | .ge => .gt
  | op => op

def rowComparison (op : BinaryOp) : List (Expr × Expr) → Expr
  | [] => .literal .null
  | [(x, y)] => .binary op x y
  | (x, y) :: rest =>
    match op with
    | .eq | .is => .binary .and (.binary op x y) (rowComparison op rest)
    | .ne | .isNot => .binary .or (.binary op x y) (rowComparison op rest)
    | op =>
      .binary .or (.binary (strictly op) x y) (.binary .and (.binary .eq x y)
        (rowComparison op rest))

-- A binary operator on two expressions. Rows can be compared with rows of the same size.
def binary? (op : BinaryOp) (l r : Expr) : Option Expr :=
  if !isComparison op then some (.binary op l r)
  else
    match l, r with
    | .row xs, .row ys =>
      if xs.length = ys.length then some (rowComparison op (xs.zip ys)) else none
    | .row _, _ | _, .row _ => none
    | l, r => some (.binary op l r)

def between? (e low high : Expr) : Option Expr :=
  match e, low, high with
  | .row _, _, _ | _, .row _, _ | _, _, .row _ => do
    return .binary .and (← binary? .ge e low) (← binary? .le e high)
  | e, low, high => some (.between e low high)

def rowBranches? (subject : Expr) : List Expr → Option (List Expr)
  | [] => some []
  | [otherwise] => some [otherwise]
  | candidate :: value :: rest => do
    return (← binary? .eq subject candidate) :: value :: (← rowBranches? subject rest)

def casesOf? (subject : Expr) (branches : List Expr) : Option Expr :=
  match subject with
  | .row _ => (rowBranches? subject branches).map .cases
  | subject => some (.casesOf subject branches)

-- The function can be called here. What is kept must not depend on the time; a likelihood must
-- be written as a real between zero and one.
def allows (scope : Scope) (f : Function) (arguments : List Expr) : Bool :=
  let isKept := [Setting.generated, .indexed, .partialIndex].contains scope.setting
  let isLikelihood (e : Expr) : Bool := match e with
    | .literal (.real x) => !x.negative && !(Binary64.ofInt 1).less x
    | _ => false
  (!isKept || f.stability = .lasting) &&
    (f.name ≠ "likelihood" || scope.setting = .default || arguments.tail.all isLikelihood)

mutual

-- The expression with its names looked up; none when it names what it must not.
def resolve? (scope : Scope) : Expr → Option Expr
  | .literal d => some (.literal d)
  | .whole n => some (.whole n)
  | .bits n => some (.bits n)
  | .parameter => if scope.setting = .query then some .parameter else none
  | .name owners written quoting => scope.lookUp? owners written quoting
  | .column i a c => some (.column i a c)
  | .callOnce .. | .query => none
  | .row items => do return .row (← resolveAll? scope items)
  | .unary op e => do return .unary op (← resolve? scope e)
  | .binary op l r => do
    match wantedTruth? scope op r with
    | some wanted => return .truth (← resolve? scope l) wanted (op = .isNot)
    | none => binary? op (← resolve? scope l) (← resolve? scope r)
  | .truth e wanted negated => do return .truth (← resolve? scope e) wanted negated
  | .collate e c => do return .collate (← resolve? scope e) c
  | .cast e a => do return .cast (← resolve? scope e) a
  | .between e low high => do
    between? (← resolve? scope e) (← resolve? scope low) (← resolve? scope high)
  | .isIn e items => do
    match ← resolve? scope e with
    | .row _ => none
    | e => return .isIn e (← resolveAll? scope items)
  | .cases branches => do return .cases (← resolveAll? scope branches)
  | .casesOf subject branches => do
    casesOf? (← resolve? scope subject) (← resolveAll? scope branches)
  | .call f arguments => do
    let found ← Function.find? f arguments.length
    if !scope.allows found arguments then none
    return .call f (← resolveAll? scope arguments)

def resolveAll? (scope : Scope) : List Expr → Option (List Expr)
  | [] => some []
  | e :: rest => do return (← resolve? scope e) :: (← resolveAll? scope rest)

end

end Scope

end TableForge.Store
