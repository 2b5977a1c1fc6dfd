import TableForge.Store.Basic

namespace TableForge.Store

-- The page for a new object and the unused pages that are left. The first unused page keeps the
-- numbers of the other ones, so that it is taken last; of the others the least one is taken.
def takePage (s : Store) (temporary : Bool) : Nat × List (Bool × Nat) :=
  let mine := (s.unused.filter (·.1 == temporary)).map (·.2)
  let taken := match mine with
    | [] => (s.entries.filter (·.temporary == temporary)).foldl (fun n e => max n e.page) 1 + 1
    | [page] => page
    | _ :: page :: rest => rest.foldl min page
  (taken, s.unused.filter (· ≠ (temporary, taken)))

def addEntry (s : Store) (temporary : Bool) (kind : Script.ObjectKind) (name table : String)
    (text : Option String) : Store :=
  let (page, unused) := s.takePage temporary
  { s with entries := s.entries ++ [⟨temporary, kind, name, table, page, text⟩], unused }

-- The store with an entry for a view, which has no page.
def addView (s : Store) (temporary : Bool) (name text : String) : Store :=
  { s with entries := s.entries ++ [⟨temporary, .view, name, name, 0, some text⟩] }

-- The store without the entries that `p` tells. Their pages are no longer used, the greatest one
-- first.
def dropEntries (s : Store) (p : Entry → Bool) : Store :=
  let (gone, kept) := s.entries.partition p
  let pages := (gone.filter (·.page ≠ 0)).mergeSort fun a b => b.page ≤ a.page
  { s with entries := kept, unused := s.unused ++ pages.map fun e => (e.temporary, e.page) }

def ownIndexName (t : StoredTable) (i : Nat) : String :=
  ownNames ++ "autoindex_" ++ t.name ++ "_" ++ toString (i + 1)

-- The store with the entries of a new table and of its keys. Where rows have no number, the
-- primary key is the table itself.
def addTableEntries (s : Store) (t : StoredTable) : Store :=
  let s := s.addEntry t.temporary .table t.name t.name (some t.text)
  t.uniqueKeys.zipIdx.foldl (fun s (key, i) =>
    if t.withoutRowid && key.isPrimary then s
    else s.addEntry t.temporary .index (ownIndexName t i) t.name none) s

def isOwnIndex (s : Store) (name : Script.ObjectName) : Bool :=
  s.tables.any fun t =>
    (schemas name.schema).contains t.temporary &&
      (List.range t.uniqueKeys.length).any fun i => Text.sameLetters name.name (ownIndexName t i)

def entriesName (temporary : Bool) : String :=
  if temporary then ownNames ++ "temp_master" else ownNames ++ "master"

def entriesOf? (name : Script.ObjectName) : Option Bool :=
  let isNamed (temporary : Bool) (names : List String) : Bool :=
    (schemas name.schema).contains temporary &&
      names.any fun own => Text.sameLetters name.name (ownNames ++ own)
  if isNamed true ["temp_master", "temp_schema"] then some true
  else if isNamed false ["master", "schema"] then some false
  else if name.schema.isSome && isNamed true ["master", "schema"] then some true
  else none

def ownColumn (name type : String) (affinity : Affinity) : StoredColumn :=
  { name, type, affinity, collation := .binary, notNull := none, default := .literal .null
    generated := none, isKept := false }

def ownTable (temporary : Bool) (name text : String) (columns : List StoredColumn)
    (rows : List StoredRow) : StoredTable :=
  { name, temporary, text, columns, rows
    primaryKey := []
    rowidColumn := none
    rowidConflict := .abort
    autoincrement := false
    withoutRowid := false
    strict := false
    uniqueKeys := []
    checks := []
    foreignKeys := [] }

-- The rows of a query as a table. They have no numbers, and their order is as it is.
def resultTable (temporary : Bool) (name : String) (columns : List StoredColumn)
    (rows : List (List Datum)) : StoredTable :=
  { ownTable temporary name "" columns (rows.zipIdx.map fun (cells, i) => ⟨i, cells⟩) with
    withoutRowid := true }

def StoredTable.isResult (t : StoredTable) : Bool := t.withoutRowid && t.primaryKey.isEmpty

def kindText : Script.ObjectKind → String
  | .table => "table"
  | .index => "index"
  | .view => "view"

def entriesTable (s : Store) (temporary : Bool) : StoredTable :=
  let columns := [
    ownColumn "type" "TEXT" .text, ownColumn "name" "TEXT" .text,
    ownColumn "tbl_name" "TEXT" .text, ownColumn "rootpage" "INT" .integer,
    ownColumn "sql" "TEXT" .text]
  let cells (e : Entry) : List Datum := [
    .ofText (kindText e.kind), .ofText e.name, .ofText e.table, .int e.page,
    e.text.elim .null .ofText]
  let rows := (s.entries.filter (·.temporary == temporary)).zipIdx.map fun (e, i) =>
    { rowid := i + 1, cells := cells e : StoredRow }
  ownTable temporary (entriesName temporary) "" columns rows

def source? (s : Store) (name : Script.ObjectName) : Option (StoredTable ⊕ StoredView) :=
  (s.object? name).or ((entriesOf? name).map fun temporary => .inl (s.entriesTable temporary))

end TableForge.Store
