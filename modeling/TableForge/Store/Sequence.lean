import TableForge.Store.Entry
import TableForge.Store.Row

namespace TableForge.Store

-- The table that keeps the greatest number ever used in a table whose numbers never repeat.
def sequenceName : String := ownNames ++ "sequence"

def sequenceText : String := "CREATE TABLE " ++ sequenceName ++ "(name,seq)"

def sequenceTable (temporary : Bool) : StoredTable :=
  ownTable temporary sequenceName sequenceText
    [ownColumn "name" "" .blob, ownColumn "seq" "" .blob] []

def isSequenceOf (t : StoredTable) (row : StoredRow) : Bool :=
  match row.cells.head? with
  | some (.text s) => Text.Utf8.decodeLossy s == t.name
  | _ => false

def sequenceOf (s : Store) (t : StoredTable) : Int :=
  let rows := (s.tableIn? t.temporary sequenceName).elim [] (·.rows)
  match (rows.find? (isSequenceOf t)).bind fun row => row.cells[1]? with
  | some d => (d.toInt?).getD 0
  | none => 0

def withSequence (s : Store) (t : StoredTable) : Store :=
  if t.autoincrement && (s.tableIn? t.temporary sequenceName).isNone then
    let s := s.addEntry t.temporary .table sequenceName sequenceName (some sequenceText)
    { s with tables := s.tables ++ [sequenceTable t.temporary] }
  else s

def setSequence (s : Store) (t : StoredTable) (n : Int) : Store :=
  s.mapRows (sequenceTable t.temporary) fun rows =>
    if rows.any (isSequenceOf t) then
      rows.map fun row =>
        if isSequenceOf t row then { row with cells := [.ofText t.name, .int n] } else row
    else
      let last := rows.foldl (fun m row => max m row.rowid) 0
      rows ++ [⟨last + 1, [.ofText t.name, .int n]⟩]

def dropSequence (s : Store) (t : StoredTable) : Store :=
  if t.autoincrement then
    s.mapRows (sequenceTable t.temporary) fun rows => rows.filter (!isSequenceOf t ·)
  else s

-- The first number drawn by chance that no row of a table has yet. Each try takes a unit of fuel.
def freeRowid? (t : StoredTable) (drawn : Nat → Nat) : Nat → Option Int
  | 0 => none
  | fuel + 1 =>
    let n : Int := drawn fuel % 0x4000000000000000 + 1
    if t.rows.any (·.rowid = n) then freeRowid? t drawn fuel else some n

-- The number of the next row of a table: one more than the greatest one, or than any used
-- before if numbers never repeat. Behind the greatest integer there is only a free number.
def nextRowid? (t : StoredTable) (drawn : Nat → Nat) (used : Int) : Option Int :=
  let next := if t.rows.isEmpty then 1 else t.maxRowid + 1
  let next := if t.autoincrement then max next (used + 1) else next
  if next ≤ Numeral.maxInt then some next
  else if t.autoincrement then none
  else freeRowid? t drawn 100

end TableForge.Store
