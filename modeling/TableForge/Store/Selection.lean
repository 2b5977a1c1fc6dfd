import TableForge.Store.Execution
import TableForge.Store.ResultColumn
import TableForge.Store.Scan

-- Rows that are selected from a table, one by one or in groups.
namespace TableForge.Store

open Script (Expr GroupCall KeyPart Select SelectItem)

-- How rows are put together in groups: what the rows of one have in common, what is computed from
-- all of them, and which groups count.
structure Grouping where
  keys : List KeyTerm
  calls : List GroupCall
  having : Option Expr

-- The expressions of a selection with their names looked up.
structure Selection where
  table : StoredTable
  items : List (String × Expr)
  distinct : Bool
  condition : Option Expr
  grouping : Option Grouping
  order : List KeyTerm

-- What expressions are evaluated for: a row, or a group of rows.
structure Context where
  circumstances : Circumstances
  operands : List Datum

namespace Context

def ofRow (o : Occasion) (row : StoredRow) : Context :=
  ⟨{ occasion := o, place := [row.rowid] }, row.operands⟩

def value? (c : Context) (e : Expr) : Option Datum :=
  (e.eval? c.circumstances c.operands).map (·.datum)

def satisfies? (c : Context) (condition : Option Expr) : Option Bool :=
  match condition with
  | none => some true
  | some e => (e.test? c.circumstances c.operands).map (· == some true)

end Context

-- The order of two lists of values: by each part in turn.
def compareBy (terms : List KeyTerm) (a b : List Datum) : Ordering :=
  (terms.zip (a.zip b)).foldl (fun order (term, x, y) =>
    let next := Datum.compare term.collation x y
    order.then (if term.descending then next.swap else next)) Ordering.eq

def sortBy {α : Type} (terms : List KeyTerm) (key : α → List Datum) (l : List α) : List α :=
  l.mergeSort fun a b => compareBy terms (key a) (key b) != .gt

def expandItem? (scope : Scope) (t : StoredTable) : SelectItem → Option (List (String × Expr))
  | .all owner =>
    if t.columns.isEmpty || !owner.all (Text.sameLetters · scope.table) then none
    else (List.range t.columns.length).mapM fun i => do
      return ((t.columns[i]?).elim "" (·.name), ← scope.columnAt? i)
  | .expr e given written => do
    let found ← scope.resolve? e
    return [((given.or (columnName? t found)).getD written, found)]

def numberedItem? (items : List (String × Expr)) (e : Expr) : Option (Option Expr) :=
  let pick (i : Int) : Option (Option Expr) :=
    if i < 1 then none else (items[i.toNat - 1]?).map fun (_, e) => some e
  match e with
  | .whole n | .unary .plus (.whole n) => pick n
  | .unary .negate (.whole n) => pick (-n)
  | _ => some none

-- A part of the order or of the groups of a query. A number stands for an item, and so does a
-- name that is given to one.
def queryTerm? (scope : Scope) (items given : List (String × Expr)) (part : KeyPart) :
    Option KeyTerm := do
  let item ← match Scope.withoutCollations part.expr with
    | .name [] written _ =>
      some ((given.find? fun (name, _) => Text.sameLetters name written).map (·.2))
    | e => numberedItem? items e
  let e ← match item with
    | some e => some e
    | none => scope.resolve? part.expr
  let own := (e.collation?).getD .binary
  let collation ← if item.isSome then outerCollation? own part.expr else some own
  return ⟨e, collation, part.descending⟩

namespace Grouping

-- The row of a group that stands for it: the one with the best value, if that is looked for, and
-- otherwise the first one.
def chosen (g : Grouping) (rows : List StoredRow) (values : List (List (List Datum))) :
    Option StoredRow :=
  let choices := (g.calls.zip values).filterMap fun (call, values) =>
    call.aggregate.prefers?.map fun prefers => (prefers, call, values)
  match choices.getLast? with
  | none => rows.head?
  | some (prefers, call, values) =>
    let c := (call.arguments.findSome? Expr.collation?).getD .binary
    rows[(Aggregate.best prefers c (Aggregate.firsts values)).2]?

def result? (call : GroupCall) (values : List (List Datum)) : Option Datum :=
  let c := (call.arguments.findSome? Expr.collation?).getD .binary
  let same (a b : List Datum) : Bool := (a.zip b).all fun (x, y) => Datum.same c x y
  let once : List (List Datum) :=
    values.foldl (fun found ds => if found.any (same ds) then found else found ++ [ds]) []
  call.aggregate.value? c (if call.distinct then once else values)

-- A group as its expressions see it: a row that stands for it, and what is computed from all of
-- its rows.
def context? (o : Occasion) (t : StoredTable) (g : Grouping) (rows : List StoredRow) :
    Option Context := do
  let values ← g.calls.mapM fun call => rows.mapM fun row =>
    call.arguments.mapM (Context.ofRow o row).value?
  let found ← (g.calls.zip values).mapM fun (call, values) => result? call values
  let nulls := List.replicate (t.columns.length + 1) Datum.null
  return match g.chosen rows values with
    | none => ⟨{ occasion := o }, nulls ++ found⟩
    | some row => { Context.ofRow o row with operands := row.operands ++ found }

-- The groups of some rows, in the order of what the rows of each have in common.
def contexts? (o : Occasion) (t : StoredTable) (g : Grouping) (rows : List StoredRow) :
    Option (List Context) := do
  let keyed ← rows.mapM fun row => do
    return (← g.keys.mapM fun term => (Context.ofRow o row).value? term.expr, row)
  let sorted := sortBy g.keys (·.1) keyed
  let groups :=
    if g.keys.isEmpty then [rows]
    else (sorted.splitBy fun a b => compareBy g.keys a.1 b.1 == .eq).map (·.map (·.2))
  (← groups.mapM (g.context? o t)).filterM (·.satisfies? g.having)

end Grouping

namespace Selection

def liftItem (start : Nat) : SelectItem → StateM (List GroupCall) SelectItem
  | .all owner => return .all owner
  | .expr e given written => return .expr (← e.liftCalls start) given written

-- A selection from the rows of a table, in an order. Rows are put in groups if the query tells by
-- what, or if one of its items looks at several rows.
def of? (t : StoredTable) (q : Select) (order : List KeyPart) : Option Selection := do
  let start := t.columns.length + 1
  let (selected, calls) := (q.items.mapM (liftItem start)).run []
  let isGrouped := !q.groups.isEmpty || !calls.isEmpty
  if !isGrouped && q.having.isSome then none
  let liftMore : StateM (List GroupCall) (List KeyPart × Option Expr) := do
    let order ← order.mapM fun part => do
      return { part with expr := ← part.expr.liftCalls start }
    return (order, ← q.having.mapM (Expr.liftCalls start))
  let ((order, having), calls) := if isGrouped then liftMore.run calls else ((order, none), [])
  let scope := { Scope.ofTable .query t with table := q.tableName.getD t.name }
  let items := (← selected.mapM (expandItem? scope t)).flatten
  let named := selected.filterMap fun
    | .expr e (some name) _ => (scope.resolve? e).map (name, ·)
    | _ => none
  let scope := { scope with named }
  let keys ← q.groups.mapM fun e => queryTerm? scope items [] ⟨e, false⟩
  let calls ← calls.mapM fun call => do
    return { call with arguments := ← call.arguments.mapM scope.resolve? }
  let having ← having.mapM scope.resolve?
  return {
    table := t
    items
    distinct := q.distinct
    condition := ← q.condition.mapM scope.resolve?
    grouping := if isGrouped then some { keys, calls, having } else none
    order := ← order.mapM (queryTerm? scope items named) }

def expressions (q : Selection) : List Expr :=
  let ofGroups (g : Grouping) : List Expr :=
    g.keys.map (·.expr) ++ g.calls.flatMap (·.arguments) ++ g.having.toList
  q.items.map (·.2) ++ q.condition.toList ++ q.order.map (·.expr) ++ q.grouping.elim [] ofGroups

def positions (q : Selection) : List Nat :=
  (q.expressions.flatMap Expr.positions).filter (· < q.table.columns.length)

-- The expressions can be evaluated for some rows. What is asked of single rows cannot look at
-- several ones.
def isUsable (q : Selection) : Bool :=
  let ofRows := q.condition.toList ++
    q.grouping.elim [] fun g => g.keys.map (·.expr) ++ g.calls.flatMap (·.arguments)
  q.expressions.all Expr.isUsable &&
    ofRows.all fun e => e.positions.all (· ≤ q.table.columns.length)

def withoutRepeats (collations : List Collation) (rows : List (List Datum × List Datum)) :
    List (List Datum × List Datum) :=
  let same (a b : List Datum) : Bool :=
    (collations.zip (a.zip b)).all fun (c, x, y) => Datum.same c x y
  rows.foldl (fun found row => if found.any (same row.1 ·.1) then found else found ++ [row]) []

-- The rows that are selected; none if an expression is refused.
def rows? (s : Store) (o : Occasion) (q : Selection) : Option (List (List Datum)) := do
  if !q.isUsable then none
  let kept ← (s.scan q.table q.positions).filterM fun row =>
    (Context.ofRow o row).satisfies? q.condition
  let contexts ← match q.grouping with
    | none => some (kept.map (Context.ofRow o))
    | some g => g.contexts? o q.table kept
  let rows ← contexts.mapM fun c => do
    return (← q.items.mapM fun (_, e) => c.value? e, ← q.order.mapM fun term => c.value? term.expr)
  let collations := q.items.map fun (_, e) => (e.collation?).getD .binary
  let rows := if q.distinct then withoutRepeats collations rows else rows
  return (sortBy q.order (·.2) rows).map (·.1)

end Selection

end TableForge.Store
