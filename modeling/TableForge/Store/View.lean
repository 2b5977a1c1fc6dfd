import TableForge.Store.Selection

-- What queries and views yield.
namespace TableForge.Store

open Script (Combination Expr KeyPart Query QueryPart)

-- A query with its names looked up. Each part of it yields the rows of its selections one behind
-- the other.
structure Plan where
  first : List Selection
  rest : List (Combination × List Selection)
  -- the order of the rows that are put together
  order : List KeyTerm
  limit : Option Expr
  offset : Option Expr

-- One row without columns, which a query over no table reads.
def singleRow : StoredTable := resultTable false "" [] [[]]

def givenRow? (values : List Expr) : Option Selection := do
  let items ← values.zipIdx.mapM fun (e, i) => do
    return (numberedName i, ← (Scope.alone .query).resolve? e)
  return {
    table := singleRow, items, distinct := false, condition := none, grouping := none, order := [] }

def bound? (o : Occasion) (e : Expr) : Option Int := do
  match (← e.eval? { occasion := o } []).datum.toNumeric with
  | .int i => some i
  | _ => none

namespace Plan

def selections (p : Plan) : List Selection := p.first ++ p.rest.flatMap (·.2)

def names (p : Plan) : List String := p.first.head?.elim [] fun q => q.items.map (·.1)

def partsAt (selections : List Selection) (i : Nat) : List ResultPart :=
  selections.filterMap fun q => (q.items[i]?).map fun (_, e) => ⟨q.table, e⟩

def columns (p : Plan) : List ResultColumn :=
  (columnNames p.names).zipIdx.map fun (name, i) => ResultPart.column name (partsAt p.selections i)

def collationAt (selections : List Selection) (i : Nat) : Collation :=
  ((partsAt selections i).findSome? (·.expr.collation?)).getD .binary

def termsOf (selections : List Selection) : List KeyTerm :=
  let count := selections.head?.elim 0 (·.items.length)
  (List.range count).map fun i => ⟨.column i .blob none, collationAt selections i, false⟩

-- A part of the order of rows that are put together: the number or the name of a column.
def orderTerm? (selections : List Selection) (part : KeyPart) : Option KeyTerm := do
  let count := selections.head?.elim 0 (·.items.length)
  let i ← match Scope.withoutCollations part.expr with
    | .whole n | .unary .plus (.whole n) => if 1 ≤ n && n ≤ count then some (n - 1) else none
    | .name [] written _ => selections.findSome? fun q =>
      (q.items.findIdx? fun (name, _) => Text.sameLetters name written)
    | _ => none
  let collation ← outerCollation? (collationAt selections i) part.expr
  return ⟨.column i .blob none, collation, part.descending⟩

-- A query whose parts read the tables that `table?` gives for their names; none if their columns
-- are not as many in each part.
def of? (table? : Option Script.ObjectName → Option StoredTable) (q : Query) : Option Plan := do
  let partOf (order : List KeyPart) : QueryPart → Option (List Selection)
    | .select select => do return [← Selection.of? (← table? select.table) select order]
    | .values rows => rows.mapM givenRow?
  let first ← partOf (if q.rest.isEmpty then q.order else []) q.first
  let rest ← q.rest.mapM fun (c, part) => do return (c, ← partOf [] part)
  let selections := first ++ rest.flatMap (·.2)
  let counts := selections.map (·.items.length)
  if counts.any fun n => counts.head? ≠ some n then none
  return {
    first, rest
    order := ← if q.rest.isEmpty then some [] else q.order.mapM (orderTerm? selections)
    limit := ← q.limit.mapM (Scope.alone .query).resolve?
    offset := ← q.offset.mapM (Scope.alone .query).resolve? }

-- Rows in their order without repeats. Of those that are the same the last one is kept.
def merged (terms : List KeyTerm) (rows : List (List Datum)) : List (List Datum) :=
  let groups := (sortBy terms id rows).splitBy fun a b => compareBy terms a b == .eq
  groups.filterMap (·.getLast?)

def combine (terms : List KeyTerm) (c : Combination) (rows more : List (List Datum)) :
    List (List Datum) :=
  let isAmong (row : List Datum) : Bool := more.any fun other => compareBy terms row other == .eq
  match c with
  | .unionAll => rows ++ more
  | .union => merged terms (rows ++ more)
  | .intersect => (merged terms rows).filter isAmong
  | .except => (merged terms rows).filter (!isAmong ·)

-- The rows that a query yields; none if an expression is refused.
def rows? (s : Store) (o : Occasion) (p : Plan) : Option (List (List Datum)) := do
  let limit ← p.limit.mapM (bound? o)
  let offset := (← p.offset.mapM (bound? o)).getD 0
  let rowsOf (selections : List Selection) : Option (List (List Datum)) := do
    return (← selections.mapM (·.rows? s o)).flatten
  let (rows, _) ← p.rest.foldlM (fun (rows, before) (c, part) => do
    let selections := before ++ part
    return (combine (termsOf selections) c rows (← rowsOf part), selections))
    (← rowsOf p.first, p.first)
  let rest := (sortBy p.order id rows).drop offset.toNat
  return match limit with
    | some n => if n < 0 then rest else rest.take n.toNat
    | none => rest

end Plan

def viewTable? (s : Store) (o : Occasion) (v : StoredView) (p : Plan) : Option StoredTable := do
  let names := if v.columns.isEmpty then columnNames p.names else columnNames v.columns
  if names.length ≠ p.names.length then none
  let columns := (p.columns.zip names).map fun (c, name) =>
    { ownColumn name c.type (c.affinity.getD .blob) with collation := c.collation }
  return resultTable v.temporary v.name columns (← p.rows? s o)

-- A view as a query; the number bounds how deep views may read each other.
def viewPlan? (s : Store) (o : Occasion) : Nat → StoredView → Option Plan
  | 0, _ => none
  | fuel + 1, v => do
    let table? : Option Script.ObjectName → Option StoredTable
      | none => some singleRow
      | some name => do
        match ← s.source? name with
        | .inl t => return t
        | .inr inner => viewTable? s o inner (← viewPlan? s o fuel inner)
    Plan.of? table? (← v.query)

-- The columns of a view. Names that are given to them count; without their types, if there are
-- too many or too few.
def viewColumns? (s : Store) (o : Occasion) (v : StoredView) : Option (List ResultColumn) := do
  let p ← viewPlan? s o (s.views.length + 1) v
  if v.columns.isEmpty then return p.columns
  let names := columnNames v.columns
  if names.length = p.names.length then
    return (names.zip p.columns).map fun (name, c) => { c with name }
  return names.map fun name => ⟨name, "", none, .binary⟩

def viewRows? (s : Store) (o : Occasion) (v : StoredView) : Option (List (List Datum)) := do
  let p ← viewPlan? s o (s.views.length + 1) v
  if !v.columns.isEmpty && v.columns.length ≠ p.names.length then none
  p.rows? s o

end TableForge.Store
