import TableForge.Store.Row
import TableForge.Store.Scope

namespace TableForge.Store

open Script

def newName? (temporary : Bool) (name : ObjectName) : Option Bool :=
  if isOwnName name.name then none
  else
    match name.schema with
    | none => some temporary
    | some s =>
      if Text.sameLetters s "temp" then some true
      else if Text.sameLetters s "main" && !temporary then some false
      else none

def areDistinct : List String → Bool
  | [] => true
  | name :: rest => !rest.any (Text.sameLetters name) && areDistinct rest

def strictTypes : List String := ["INT", "INTEGER", "REAL", "TEXT", "BLOB", "ANY"]

def columnOf? (strict : Bool) (d : ColumnDefinition) : Option StoredColumn :=
  let isAny := Text.sameLetters d.type "ANY"
  if strict && !strictTypes.any (Text.sameLetters d.type) then none
  else
    let start : StoredColumn := {
      name := d.name
      type := d.type
      affinity := if strict && isAny then .blob else d.affinity
      collation := .binary
      notNull := none
      default := .literal .null
      generated := none
      isKept := false }
    d.rules.foldlM (fun c rule => match rule with
      | .notNull conflict => some { c with notNull := some (conflict.getD .abort) }
      | .default e => if e.isConstant true false then some { c with default := e } else none
      | .collate collation => collation.map fun collation => { c with collation }
      | .generated e isKept => some { c with generated := some e, isKept }
      | _ => some c) start

-- A generated column has one expression and no default, and is no part of the primary key.
def isSound (d : ColumnDefinition) : Bool :=
  let generations := d.rules.countP fun
    | .generated .. => true
    | _ => false
  let isOther := d.rules.any fun
    | .default _ | .primaryKey .. => true
    | _ => false
  generations = 0 || (generations = 1 && !isOther)

structure DeclaredKey where
  parts : List KeyPart
  conflict : Option Conflict
  isPrimary : Bool
  -- the direction of a primary key that stands at its column
  descending : Bool
  autoincrement : Bool

def columnKeys (d : ColumnDefinition) : List DeclaredKey :=
  let part (descending : Bool) : KeyPart := ⟨.name [] d.name .other, descending⟩
  d.rules.filterMap fun
    | .primaryKey descending conflict autoincrement =>
      some ⟨[part descending], conflict, true, descending, autoincrement⟩
    | .unique conflict => some ⟨[part false], conflict, false, false, false⟩
    | _ => none

def tableKeys (rules : List TableRule) : List DeclaredKey :=
  rules.filterMap fun
    | .primaryKey parts conflict autoincrement =>
      some ⟨parts, conflict, true, false, autoincrement⟩
    | .unique parts conflict => some ⟨parts, conflict, false, false, false⟩
    | _ => none

-- In a key a text stands for the column of that name.
def namedPart : Expr → Expr
  | .literal (.text s) => .name [] (Text.Utf8.decodeLossy s) .other
  | .collate (.literal (.text s)) c => .collate (.name [] (Text.Utf8.decodeLossy s) .other) c
  | e => e

-- The collation around an expression, or else a given one; none if it is not known.
def outerCollation? (otherwise : Collation) : Expr → Option Collation
  | .collate _ c => c
  | _ => some otherwise

-- A part of a key that is a column, perhaps with a collation of its own. That of a column which
-- is the number of the row does not matter.
def keyColumn? (columns : List StoredColumn) (isNumber : Bool) (part : KeyPart) :
    Option KeyColumn :=
  let e := namedPart part.expr
  match Scope.withoutCollations e with
  | .name [] written _ => do
    let i ← columns.findIdx? fun c => Text.sameLetters c.name written
    let collation ← if isNumber then some .binary else outerCollation? (← columns[i]?).collation e
    return ⟨i, collation, part.descending⟩
  | _ => none

structure TableKey where
  columns : List KeyColumn
  conflict : Option Conflict
  isPrimary : Bool

def TableKey.isLike (a b : TableKey) : Bool :=
  let shape (key : TableKey) := key.columns.map fun k => (k.index, k.collation)
  shape a == shape b

-- The keys with one more. Keys on the same columns are the same, and their conflicts must not be
-- resolved in two ways.
def addKey? (keys : List TableKey) (key : TableKey) : Option (List TableKey) :=
  match keys.find? key.isLike with
  | none => some (keys ++ [key])
  | some old =>
    if old.conflict.isSome && key.conflict.isSome && old.conflict ≠ key.conflict then none
    else
      some (keys.map fun k =>
        if k.isLike key then
          { k with
            conflict := k.conflict.or key.conflict
            isPrimary := k.isPrimary || key.isPrimary }
        else k)

-- The column that is the number of the row if there is one: that of a primary key of one column
-- of type INTEGER, not marked as descending where it stands at the column itself.
def rowidColumnOf? (columns : List StoredColumn) (key : DeclaredKey) : Option Nat := do
  let [part] := key.parts | none
  let k ← keyColumn? columns true part
  if !key.descending && (columns[k.index]?).any fun c => Text.sameLetters c.type "INTEGER" then
    return k.index
  else none

def tableKey? (columns : List StoredColumn) (isNumber : Bool) (key : DeclaredKey) :
    Option TableKey := do
  return ⟨← key.parts.mapM (keyColumn? columns isNumber), key.conflict, key.isPrimary⟩

-- The keys of a table in the order in which they are made. A primary key on the column that
-- would be the number of the row is none of them, unless rows have no number; then it is made
-- last.
def keysOf? (columns : List StoredColumn) (withoutRowid : Bool) (declared : List DeclaredKey) :
    Option (List TableKey) := do
  let isNumber (key : DeclaredKey) : Bool := key.isPrimary && (rowidColumnOf? columns key).isSome
  let (numbers, others) := declared.partition isNumber
  let ordered := others ++ if withoutRowid then numbers else []
  (← ordered.mapM (tableKey? columns false)).foldlM addKey? []

def rowKey? (scope : Scope) (key : TableKey) : Option RowKey := do
  let terms ← key.columns.mapM fun k => do
    return ⟨← scope.columnAt? k.index, k.collation, k.descending⟩
  return ⟨terms, none, key.conflict.getD .abort, key.isPrimary⟩

-- A foreign key of columns of the table; the parent must have as many, if they are given.
def foreignKey? (columns : List StoredColumn) (names : List String) (r : Reference) :
    Option ForeignKey := do
  let found ← names.mapM fun name => columns.findIdx? fun c => Text.sameLetters c.name name
  if r.columns.isEmpty || r.columns.length = names.length then return ⟨found, r⟩ else none

-- The foreign keys of a table, the last one first. When a key is checked may be told anywhere
-- behind it.
def foreignKeys? (columns : List StoredColumn) (d : TableDefinition) :
    Option (List ForeignKey) := do
  let atColumn (name : String) (keys : List ForeignKey) :
      ColumnRule → Option (List ForeignKey)
    | .references r => do return (← foreignKey? columns [name] r) :: keys
    | .deferral deferred =>
      some (match keys with
        | [] => []
        | key :: rest => { key with reference := { key.reference with deferred } } :: rest)
    | _ => some keys
  let atTable (keys : List ForeignKey) : TableRule → Option (List ForeignKey)
    | .foreignKey names r => do return (← foreignKey? columns names r) :: keys
    | _ => some keys
  let fromColumns ← d.columns.foldlM (fun keys c => c.rules.foldlM (atColumn c.name) keys) []
  d.rules.foldlM atTable fromColumns

def declaredChecks (d : TableDefinition) : List Expr :=
  (d.columns.flatMap fun c => c.rules.filterMap fun
    | .check e => some e
    | _ => none) ++
  d.rules.filterMap fun
    | .check e => some e
    | _ => none

-- Columns of the primary key are never null where rows have no number, and in strict tables.
def requireKey (needed : Bool) (key : List Nat) (columns : List StoredColumn) :
    List StoredColumn :=
  columns.zipIdx.map fun (c, i) =>
    if needed && c.notNull.isNone && key.contains i then { c with notNull := some .abort } else c

-- Columns that are computed when the row is read can be, and not in circles.
def canBeRead (columns : List StoredColumn) : Bool :=
  let pending := columns.zipIdx.filterMap fun (c, i) =>
    if c.isKept then none else c.generated.map (i, ·)
  pending.all (·.2.isUsable) && (computationOrder? columns.length pending).isSome

-- A table has no more columns than this.
def columnLimit : Nat := 2000

def tableOf? (d : TableDefinition) : Option StoredTable := do
  let temporary ← newName? d.temporary d.name
  if columnLimit < d.columns.length then none
  if !areDistinct (d.columns.map (·.name)) || !d.columns.all isSound then none
  let columns ← d.columns.mapM (columnOf? d.strict)
  if columns.all (·.generated.isSome) then none
  let declared := d.columns.flatMap columnKeys ++ tableKeys d.rules
  let primary := declared.filter (·.isPrimary)
  if 1 < primary.length then none
  let numbered := primary.head?.bind (rowidColumnOf? columns)
  if primary.any (·.autoincrement) && (numbered.isNone || d.withoutRowid) then none
  if d.withoutRowid && primary.isEmpty then none
  let rowidColumn := if d.withoutRowid then none else numbered
  let primaryColumns ← (primary.flatMap (·.parts)).mapM (keyColumn? columns numbered.isSome)
  let primaryIndices := primaryColumns.map (·.index)
  if primaryIndices.any fun i => (columns[i]?).any (·.generated.isSome) then none
  let keys ← keysOf? columns d.withoutRowid declared
  let needed := d.withoutRowid || (d.strict && rowidColumn.isNone)
  let scope (setting : Setting) (columns : List StoredColumn) : Scope :=
    { setting, temporary, table := d.name.name, columns
      rowid := if d.withoutRowid then none else some (rowidColumn.getD columns.length)
      named := [] }
  let columns ← (requireKey needed primaryIndices columns).mapM fun c => do
    return { c with generated := ← c.generated.mapM (scope .generated columns).resolve? }
  if !canBeRead columns then none
  return {
    name := d.name.name
    temporary
    text := d.text
    columns
    primaryKey := ((keys.find? (·.isPrimary)).map (·.columns)).getD primaryColumns
    rowidColumn
    rowidConflict := ((primary.head?).bind (·.conflict)).getD .abort
    autoincrement := primary.any (·.autoincrement)
    withoutRowid := d.withoutRowid
    strict := d.strict
    uniqueKeys := ← keys.mapM (rowKey? (scope .indexed columns))
    checks := ← (declaredChecks d).mapM (scope .check columns).resolve?
    foreignKeys := ← foreignKeys? columns d
    rows := [] }

-- A part of the key of an index: a column, or an expression.
def keyTerm? (t : StoredTable) (part : KeyPart) : Option KeyTerm := do
  let scope := Scope.ofTable .indexed t
  let e ← scope.resolve? (namedPart part.expr)
  match Scope.withoutCollations e with
  | .column i a c =>
    let own := (t.columns[i]?).elim .binary (·.collation)
    return ⟨.column i a c, ← outerCollation? own e, part.descending⟩
  | _ => return ⟨e, ← outerCollation? .binary e, part.descending⟩

def indexOf? (t : StoredTable) (d : IndexDefinition) : Option StoredIndex := do
  if isOwnName d.name.name then none
  let terms ← d.parts.mapM (keyTerm? t)
  let condition ← d.condition.mapM (Scope.ofTable .partialIndex t).resolve?
  if !terms.all (·.expr.isUsable) || !condition.all (·.isUsable) then none
  return {
    name := d.name.name
    temporary := t.temporary
    table := t.name
    text := d.text
    isUnique := d.unique
    key := { terms, condition, conflict := .abort } }

end TableForge.Store
