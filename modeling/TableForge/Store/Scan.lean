import TableForge.Store.Change
import TableForge.Store.Entry

-- The order in which the rows of a table are read: along the index that costs least.
namespace TableForge.Store

open Script (Expr)

-- Ten times the logarithm of a number to the base two, rounded.
def tenfoldLog (n : Nat) : Nat :=
  let steps := [0, 2, 3, 5, 6, 7, 8, 9]
  if n < 2 then 0
  else
    let e := n.log2
    let eighths := if 3 ≤ e then n >>> (e - 3) else n <<< (3 - e)
    10 * e + steps.getD (eighths % 8) 0

def firstDigits (s : List Char) : Nat :=
  Numeral.valueOf 0 ((s.dropWhile (!·.isDigit)).takeWhile Char.isDigit)

def behind? (part : String) : List Char → Option (List Char)
  | [] => none
  | c :: rest =>
    match behind? part rest with
    | some found => some found
    | none =>
      if part.toList.isPrefixOf (c :: rest) then some ((c :: rest).drop part.length) else none

-- The size of the values of a column as its type tells, in units of four bytes.
def sizeOf (c : StoredColumn) : Nat :=
  let type := c.type.toList.map Char.toLower
  match Affinity.ofDeclared c.type with
  | .text | .blob =>
    match behind? "char" type, behind? "blob" type with
    | some rest, _ | none, some ('(' :: rest) => min (firstDigits rest / 4 + 1) 255
    | none, _ => 5
  | _ => 1

-- An index as a way to read a table: the order of its entries, their width, and the columns that
-- they hold.
structure Route where
  terms : List KeyTerm
  width : Nat
  columns : List Nat
  -- all columns can be read from it, computed ones too
  isFull : Bool

def KeyTerm.column? (term : KeyTerm) : Option Nat :=
  match term.expr with
  | .column i _ _ => some i
  | _ => none

def KeyTerm.isLike (a b : KeyTerm) : Bool :=
  a.column?.isSome && a.column? == b.column? && a.collation == b.collation

def primaryTerms (t : StoredTable) : List KeyTerm :=
  ((t.uniqueKeys.find? (·.isPrimary)).elim [] (·.terms)).foldl
    (fun found term => if found.any term.isLike then found else found ++ [term]) []

def widthOf (t : StoredTable) (columns : List Nat) : Nat :=
  columns.foldl (fun n i => n + (t.columns[i]?).elim 1 sizeOf) 0

def rowWidth (t : StoredTable) : Nat :=
  (t.columns.foldl (fun n c => n + sizeOf c) 0) + if t.rowidColumn.isSome then 0 else 1

-- An index of a table as a route. Behind its own terms come those of the primary key that are not
-- among them, or the number of the row; the primary key of rows without a number holds all columns
-- that are kept.
def routeOf (t : StoredTable) (isOwn : Bool) (key : RowKey) : Route :=
  let all := List.range t.columns.length
  if t.withoutRowid && key.isPrimary then
    let kept := all.filter fun i => (t.columns[i]?).all fun c => c.generated.isNone || c.isKept
    ⟨primaryTerms t, widthOf t kept, all, true⟩
  else
    let more := if t.withoutRowid then
        ((primaryTerms t).filter fun term => !key.terms.any term.isLike).map fun term =>
          { term with descending := term.descending && !isOwn }
      else []
    let terms := key.terms ++ more
    let columns := terms.filterMap (·.column?)
    let expressions := terms.length - columns.length
    let number := if t.withoutRowid then 0 else 1
    let isFull := !isOwn && t.columns.length ≤ terms.length + number &&
      all.all fun i => columns.contains i || t.rowidColumn = some i
    ⟨terms, widthOf t columns + expressions + number, columns, isFull⟩

-- The indices of a table without a condition as routes, the newest first and those that replace
-- rows last.
def routesOf (s : Store) (t : StoredTable) : List Route :=
  let own := t.uniqueKeys.map fun key => (true, key)
  let others := (s.indices.filter fun i =>
    i.temporary == t.temporary && Text.sameLetters i.table t.name).map fun i => (false, i.key)
  let all := (own ++ others).reverse
  let (last, first) := all.partition fun (_, key) => key.conflict == .replace
  ((first ++ last).filter fun (_, key) => key.condition.isNone).map fun (isOwn, key) =>
    routeOf t isOwn key

-- The route holds all that is read. A computed column that is not kept is read from the others.
def Route.holds (r : Route) (t : StoredTable) (columns : List Nat) : Bool :=
  let isComputed (i : Nat) : Bool := (t.columns[i]?).any (·.generated.isSome)
  let isVirtual (i : Nat) : Bool := (t.columns[i]?).any fun c => c.generated.isSome && !c.isKept
  let read := if columns.any isComputed then List.range t.columns.length else columns
  r.isFull || read.all fun i => t.rowidColumn = some i || (r.columns.contains i && !isVirtual i)

-- The cost of reading all rows along a route, in tenfold logarithms: there are said to be about a
-- million rows.
def Route.cost (r : Route) (t : StoredTable) : Nat :=
  201 + 15 * tenfoldLog (4 * r.width) / tenfoldLog (4 * rowWidth t)

def plainCost : Nat := 216

-- The route along which some columns of all rows are read; none for the order of their numbers.
-- Of two that cost the same the first one is taken.
def route? (s : Store) (t : StoredTable) (columns : List Nat) : Option Route :=
  let isNarrow (r : Route) : Bool :=
    t.withoutRowid || tenfoldLog (4 * r.width) < tenfoldLog (4 * rowWidth t)
  let usable := (s.routesOf t).filter fun r => r.holds t columns && isNarrow r
  let start : Option Route × Nat := (none, if t.withoutRowid then 10 * plainCost else plainCost)
  (usable.foldl (fun best r => if r.cost t < best.2 then (some r, r.cost t) else best) start).1

def Route.order (r : Route) (a b : StoredRow) : Ordering :=
  r.terms.foldl (fun order term =>
    let x := (a.value? term.expr).getD .null
    let y := (b.value? term.expr).getD .null
    let next := Datum.compare term.collation x y
    order.then (if term.descending then next.swap else next)) Ordering.eq

-- The rows of a table in the order in which they are read for some of its columns.
def scan (s : Store) (t : StoredTable) (columns : List Nat) : List StoredRow :=
  match s.route? t columns with
  | none => t.orderedRows
  | some r => t.orderedRows.mergeSort fun a b => r.order a b != .gt

end TableForge.Store
