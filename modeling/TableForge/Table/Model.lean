import TableForge.Catalog
import TableForge.Query
import TableForge.Table.Field
import TableForge.Table.Naming

namespace TableForge

-- An index together with the statement that creates it unless it exists.
structure GuardedIndex where
  index : Index
  statement : String
  deriving DecidableEq, Repr

structure Table where
  name : String
  definition : String
  fields : KeyedFields
  indices : List GuardedIndex
  rows : List Row
  deriving DecidableEq, Repr

namespace Table

def classBase (t : Table) : String := Naming.classBase t.name

def columnClass (t : Table) : String := t.classBase ++ "Col"

def rowClass (t : Table) : String := t.classBase ++ "Row"

def dataClass (t : Table) : String := t.classBase ++ "Data"

def tableClass (t : Table) : String := t.classBase ++ "Table"

def create (t : Table) : Query := .create t.definition

def drop (t : Table) : Query := .drop t.name

def insert (t : Table) : Query := .insert t.name (t.fields.keyLast.map (·.name))

def update (t : Table) : Query := .update t.name (t.fields.others.map (·.name)) t.fields.key.name

def delete (t : Table) : Query := .delete t.name t.fields.key.name

def select (t : Table) : Query := .select t.name (t.fields.declared.map (·.name))

def seeds (t : Table) : List SeedInsert :=
  t.rows.map fun row => ⟨t.name, row.values.map Literal.ofValue⟩

-- The indices with their statements; the first definition without the keyword INDEX is the
-- error.
def guardIndices (indices : List Index) : Except Error (List GuardedIndex) :=
  indices.mapM fun index => do return ⟨index, ← index.createIfMissing⟩

def keyError (table : String) : List String → Error
  | [] => .missingKey table
  | columns => .compositeKey table columns

-- A table with fields of known type, of which exactly one must be marked as the key.
def assemble (name definition : String) (fields : List (Field × Bool)) (indices : List Index)
    (rows : List Row) : Except Error Table := do
  let keyed ← (KeyedFields.ofMarked fields).mapError (keyError name)
  let guarded ← guardIndices indices
  return ⟨name, definition, keyed, guarded, rows⟩

-- A column as a field. A key is never null, whatever its declaration says.
def fieldOfColumn (table : String) (c : Column) : Except Error (Field × Bool) :=
  match ColumnType.ofDeclared? c.declared with
  | none => .error (.unmappedType table c.name c.declared)
  | some type => .ok (⟨c.ordinal, c.name, type, !c.notNull && !c.isKey⟩, c.isKey)

-- The table of a catalog under a name. Columns are asked for and typed first, then indices and
-- rows are asked for, and the parts are put together last.
def build (catalog : Catalog) (name definition : String) : Except Error Table := do
  let fields ← (← catalog.columns name).mapM (fieldOfColumn name)
  let indices ← catalog.indices name
  let rows ← catalog.rows name
  assemble name definition fields indices rows

end Table

end TableForge
