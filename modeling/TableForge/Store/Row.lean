import TableForge.Script.Expr.Value
import TableForge.Store.Basic

namespace TableForge.Store

open Script (Expr)

namespace StoredRow

-- What an expression is evaluated for: the cells of a row and, behind them, its number.
def operands (row : StoredRow) : List Datum := row.cells ++ [.int row.rowid]

-- The value of an expression that is to stay the same, for which no occasion matters.
def value? (row : StoredRow) (e : Expr) : Option Datum :=
  (e.eval? { isLasting := true } row.operands).map (·.datum)

end StoredRow

namespace RowKey

-- The key of a row; there is none if a part is null or the row does not satisfy the condition.
-- The outer option tells whether the expressions have values at all.
def of? (key : RowKey) (row : StoredRow) : Option (Option (List Datum)) := do
  let applies ← match key.condition with
    | none => some true
    | some e => (e.test? { isLasting := true } row.operands).map (· == some true)
  if !applies then return none
  let values ← key.terms.mapM fun term => row.value? term.expr
  return if values.any Datum.isNull then none else some values

def same (key : RowKey) (a b : List Datum) : Bool :=
  (key.terms.zip (a.zip b)).all fun (term, x, y) => Datum.same term.collation x y

def conflicts? (key : RowKey) (row : StoredRow) (others : List StoredRow) :
    Option (List StoredRow) := do
  match ← key.of? row with
  | none => return []
  | some values =>
    let found ← others.mapM fun other => do
      return ((← key.of? other).any (key.same values), other)
    return (found.filter (·.1)).map (·.2)

end RowKey

-- The order in which computed columns get their values: each after those that it is computed
-- from. There is none if they go round in circles. Each round takes a unit of fuel.
def computationOrder? : Nat → List (Nat × Expr) → Option (List (Nat × Expr))
  | 0, pending => if pending.isEmpty then some [] else none
  | fuel + 1, pending => do
    let isPending (i : Nat) : Bool := pending.any (·.1 = i)
    let (ready, waiting) := pending.partition fun (_, e) => !e.positions.any isPending
    if ready.isEmpty && !waiting.isEmpty then none
    return ready ++ (← if waiting.isEmpty then some [] else computationOrder? fuel waiting)

namespace StoredTable

def computations (t : StoredTable) : List (Nat × Expr) :=
  t.columns.zipIdx.filterMap fun (c, i) => c.generated.map (i, ·)

def fitsStrict (c : StoredColumn) (d : Datum) : Bool :=
  match d with
  | .null => true
  | .int _ => !Text.sameLetters c.type "TEXT" && !Text.sameLetters c.type "BLOB" &&
      !Text.sameLetters c.type "REAL"
  | .real _ => Text.sameLetters c.type "REAL" || Text.sameLetters c.type "ANY"
  | .text _ => Text.sameLetters c.type "TEXT" || Text.sameLetters c.type "ANY"
  | .blob _ => Text.sameLetters c.type "BLOB" || Text.sameLetters c.type "ANY"

def compute? (t : StoredTable) (row : StoredRow) : Option StoredRow := do
  let order ← computationOrder? t.columns.length t.computations
  order.foldlM (fun row (i, e) => do
    let d ← row.value? e
    let affinity := (t.columns[i]?).elim .blob (·.affinity)
    return { row with cells := row.cells.set i (affinity.apply d) }) row

-- The row as the table stores it: values as their columns take them, computed cells filled in.
def stored? (t : StoredTable) (row : StoredRow) : Option StoredRow := do
  let cells := (t.columns.zip row.cells).map fun (c, d) => c.affinity.apply d
  let row ← t.compute? { row with cells }
  let fits (c : StoredColumn) (d : Datum) : Bool :=
    (c.generated.isSome && !c.isKept) || fitsStrict c d
  if t.strict && !(t.columns.zip row.cells).all fun (c, d) => fits c d then none
  return row

def numbered (t : StoredTable) (row : StoredRow) : StoredRow :=
  match t.rowidColumn with
  | none => row
  | some i => { row with cells := row.cells.set i (.int row.rowid) }

-- Rows in the order of the table: by their numbers, or by their primary keys.
def precedes (t : StoredTable) (a b : StoredRow) : Bool :=
  if t.withoutRowid then
    let order := t.primaryKey.foldl (fun order k =>
      let next :=
        Datum.compare k.collation (a.cells.getD k.index .null) (b.cells.getD k.index .null)
      order.then (if k.descending then next.swap else next)) Ordering.eq
    order != .gt
  else a.rowid ≤ b.rowid

def orderedRows (t : StoredTable) : List StoredRow := t.rows.mergeSort t.precedes

def maxRowid (t : StoredTable) : Int :=
  match t.rows with
  | [] => 0
  | first :: rest => rest.foldl (fun m row => max m row.rowid) first.rowid

end StoredTable

end TableForge.Store
