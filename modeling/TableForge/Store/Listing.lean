import TableForge.Catalog
import TableForge.Script.Statement.Reader
import TableForge.Store.View
import TableForge.Text.Upper

namespace TableForge.Store

def byName {α : Type} (name : α → String) (l : List α) : List α :=
  l.mergeSort fun a b => name a ≤ name b

-- The pattern of names that a list of tables leaves out; in it the underscore stands for any
-- character.
def hiddenTables : String := ownNames ++ "%"

def hiddenIndices : String := ownNames ++ "autoindex_%"

def listTables (s : Store) : List (String × String) :=
  let shown := s.tables.filter fun t => !t.temporary && !Text.like hiddenTables t.name
  (byName (·.name) shown).map fun t => (t.name, t.text)

-- Indices that were declared on a table that lasts, in the order of their names. The name of the
-- table counts with its case.
def listIndices (s : Store) (table : String) : List TableForge.Index :=
  let shown := s.indices.filter fun i =>
    !i.temporary && i.table == table && !Text.like hiddenIndices i.name
  (byName (·.name) shown).map fun i => ⟨i.name, i.text⟩

def upperText (s : String) : String := String.ofList (Text.upper s.toList)

def tableColumns (t : StoredTable) : List Column :=
  let visible := t.columns.zipIdx.filter (·.1.generated.isNone)
  visible.zipIdx.map fun ((c, i), ordinal) =>
    { ordinal
      name := c.name
      declared := upperText c.type
      notNull := c.notNull.isSome
      isKey := t.primaryKey.any (·.index == i) }

-- The columns of a table or a view, none for an unknown one.
def listColumns (s : Store) (o : Occasion) (table : String) : Except Error (List Column) :=
  match s.source? ⟨none, table⟩ with
  | none => .ok []
  | some (.inl t) => .ok (tableColumns t)
  | some (.inr v) =>
    match viewColumns? s o v with
    | none => .error .script
    | some columns => .ok (columns.zipIdx.map fun (c, ordinal) =>
        ⟨ordinal, c.name, upperText c.type, false, false⟩)

-- A value as seed rows have it; a blob is refused.
def seedValue (table column : String) : Datum → Except Error Value
  | .null => .ok .null
  | .int i => .ok (.int i)
  | .real x => .ok (.real x)
  | .text s => .ok (.text (Text.Utf8.decodeLossy s))
  | .blob _ => .error (.blobValue table column)

def seedRow (table : String) (names : List String) (cells : List Datum) : Except Error Row :=
  (names.zip cells).mapM fun (name, d) => do return (name, ← seedValue table name d)

-- The rows of a table or a view in their order. An unknown one is an error.
def listRows (s : Store) (o : Occasion) (table : String) : Except Error (List Row) :=
  match s.source? ⟨none, table⟩ with
  | none => .error .script
  | some (.inl t) =>
    (s.scan t (List.range t.columns.length)).mapM fun row =>
      seedRow table (t.columns.map (·.name)) row.cells
  | some (.inr v) =>
    match viewColumns? s o v, viewRows? s o v with
    | some columns, some rows => rows.mapM (seedRow table (columns.map (·.name)))
    | _, _ => .error .script

def catalog (s : Store) (o : Occasion := {}) : Catalog where
  tables := .ok s.listTables
  columns := s.listColumns o
  indices := fun table => .ok (s.listIndices table)
  rows := s.listRows o

-- The store that a schema script makes. A script with any statement that is refused is refused
-- as a whole.
def load (script : String) (around : Surroundings := {}) : Except Error Store :=
  match (Script.Statement.ofScript? script).bind (run? around) with
  | some s => .ok s
  | none => .error .script

end TableForge.Store
