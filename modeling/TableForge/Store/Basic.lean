import TableForge.Script.Statement.Basic
import TableForge.Text.Ascii

namespace TableForge.Store

open Script (Expr Conflict Reference)

structure StoredColumn where
  name : String
  -- as it is declared, empty without a declaration
  type : String
  affinity : Affinity
  collation : Collation
  -- what becomes of a row without a value, when there must be one
  notNull : Option Conflict
  -- the expression whose value takes the place of one that is not given
  default : Expr
  -- the expression of a computed column
  generated : Option Expr
  -- the value of a computed column is kept in the row
  isKept : Bool

-- A part of a key of the rows of a table: how it is computed, compared and ordered.
structure KeyTerm where
  expr : Expr
  collation : Collation
  descending : Bool

-- A key of the rows of a table. Rows with a null in it, and rows that do not satisfy the
-- condition, have none.
structure RowKey where
  terms : List KeyTerm
  condition : Option Expr
  conflict : Conflict
  -- the primary key of its table
  isPrimary : Bool := false

structure KeyColumn where
  index : Nat
  collation : Collation
  descending : Bool

structure ForeignKey where
  columns : List Nat
  reference : Reference

structure StoredRow where
  rowid : Int
  cells : List Datum
  deriving DecidableEq

structure StoredTable where
  name : String
  temporary : Bool
  -- the text of its definition
  text : String
  columns : List StoredColumn
  primaryKey : List KeyColumn
  -- the column that is the number of the row, and what becomes of a row whose number is taken
  rowidColumn : Option Nat
  rowidConflict : Conflict
  autoincrement : Bool
  withoutRowid : Bool
  strict : Bool
  uniqueKeys : List RowKey
  checks : List Expr
  -- the last one first
  foreignKeys : List ForeignKey
  rows : List StoredRow

structure StoredIndex where
  name : String
  temporary : Bool
  table : String
  text : String
  -- no two rows share the key
  isUnique : Bool
  key : RowKey

structure StoredView where
  name : String
  temporary : Bool
  columns : List String
  query : Option Script.Query

-- What the store tells about an object in its own table of objects.
structure Entry where
  temporary : Bool
  kind : Script.ObjectKind
  name : String
  table : String
  -- the page of the file that the object begins at, zero for a view
  page : Nat
  -- nothing for an index that belongs to a key of its table
  text : Option String

end Store

-- The tables that a schema script has made, with what belongs to them.
structure Store where
  tables : List Store.StoredTable := []
  indices : List Store.StoredIndex := []
  views : List Store.StoredView := []
  -- all objects in the order in which they were made
  entries : List Store.Entry := []
  -- the pages that are no longer used, in the order in which they became so; those of the file of
  -- temporary objects are marked
  unused : List (Bool × Nat) := []

namespace Store

-- Names that begin like this belong to the store itself.
def ownNames : String := "sqlite_"

def isOwnName (name : String) : Bool :=
  Text.sameLetters (String.ofList (name.toList.take ownNames.length)) ownNames

-- The object is in the schema of temporary objects or in the main one; without a schema the
-- former is looked through first.
def schemas (schema : Option String) : List Bool :=
  match schema with
  | none => [true, false]
  | some s =>
    if Text.sameLetters s "main" then [false]
    else if Text.sameLetters s "temp" then [true]
    else []

def tableIn? (s : Store) (temporary : Bool) (name : String) : Option StoredTable :=
  s.tables.find? fun t => t.temporary == temporary && Text.sameLetters t.name name

def indexIn? (s : Store) (temporary : Bool) (name : String) : Option StoredIndex :=
  s.indices.find? fun i => i.temporary == temporary && Text.sameLetters i.name name

def viewIn? (s : Store) (temporary : Bool) (name : String) : Option StoredView :=
  s.views.find? fun v => v.temporary == temporary && Text.sameLetters v.name name

-- An index under a name, without regard to the case of ASCII letters.
def index? (s : Store) (name : Script.ObjectName) : Option StoredIndex :=
  (schemas name.schema).findSome? fun temporary => s.indexIn? temporary name.name

def object? (s : Store) (name : Script.ObjectName) : Option (StoredTable ⊕ StoredView) :=
  (schemas name.schema).findSome? fun temporary =>
    match s.tableIn? temporary name.name with
    | some t => some (.inl t)
    | none => (s.viewIn? temporary name.name).map .inr

def StoredTable.isSame (t u : StoredTable) : Bool :=
  t.temporary == u.temporary && Text.sameLetters t.name u.name

def refresh? (s : Store) (t : StoredTable) : Option StoredTable := s.tableIn? t.temporary t.name

def mapRows (s : Store) (t : StoredTable) (f : List StoredRow → List StoredRow) : Store :=
  { s with tables := s.tables.map fun u => if u.isSame t then { u with rows := f u.rows } else u }

namespace StoredTable

def columnIndex? (t : StoredTable) (name : String) : Option Nat :=
  t.columns.findIdx? fun c => Text.sameLetters c.name name

end StoredTable

end Store

end TableForge
