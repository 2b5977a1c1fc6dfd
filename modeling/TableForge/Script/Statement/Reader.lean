import TableForge.Script.Statement.Query

namespace TableForge.Script.Statement

open Reader Definition

def readCreate : Reader Statement := do
  let temporary ← do
    if ← keyword? "TEMP" then pure true else keyword? "TEMPORARY"
  if ← keyword? "TABLE" then return .createTable (← table temporary)
  if ← keyword? "VIEW" then return .createView (← view temporary)
  if temporary then failure
  let unique ← keyword? "UNIQUE"
  keyword "INDEX"
  return .createIndex (← index unique)

def readDrop : Reader Statement := do
  let kind ← next fun token =>
    if isWord "TABLE" token then some ObjectKind.table
    else if isWord "INDEX" token then some .index
    else if isWord "VIEW" token then some .view
    else none
  let ifExists ← do
    if ← keyword? "IF" then
      keyword "EXISTS"
      pure true
    else pure false
  return .drop kind ifExists (← objectName)

def orConflict? : Reader (Option Conflict) := do
  if ← keyword? "OR" then some <$> resolution else pure none

def readInsert (conflict : Option Conflict) : Reader Statement := do
  keyword "INTO"
  let table ← objectName
  let columns ← do
    if (← peek) == some (.symbol "(") then some <$> listOf name else pure none
  if ← keyword? "DEFAULT" then
    keyword "VALUES"
    return .insert conflict table columns .defaults
  keyword "VALUES"
  return .insert conflict table columns (.values (← commaSeparated (listOf Expr.read) (← fuel)))

-- What a column gets, or several columns in parentheses, each a part of a row of values.
def assignment : Reader (List (String × Expr)) := do
  let columns ← if (← peek) == some (.symbol "(") then listOf name else List.singleton <$> name
  symbol "="
  match columns, ← Expr.read with
  | [column], e => return [(column, e)]
  | columns, .row items =>
    if columns.length = items.length then return columns.zip items else failure
  | _, _ => failure

def condition? : Reader (Option Expr) := do
  if ← keyword? "WHERE" then some <$> Expr.read else pure none

def readUpdate : Reader Statement := do
  let conflict ← orConflict?
  let table ← objectName
  keyword "SET"
  let assignments ← commaSeparated assignment (← fuel)
  return .update conflict table assignments.flatten (← condition?)

def readDelete : Reader Statement := do
  keyword "FROM"
  let table ← objectName
  return .delete table (← condition?)

def transactionName : Reader Unit := do
  if ← keyword? "TRANSACTION" then discard (attempt name)

def read : Reader Statement := do
  if ← keyword? "CREATE" then return ← readCreate
  if ← keyword? "DROP" then return ← readDrop
  if ← keyword? "INSERT" then return ← readInsert (← orConflict?)
  if ← keyword? "REPLACE" then return ← readInsert (some .replace)
  if ← keyword? "UPDATE" then return ← readUpdate
  if ← keyword? "DELETE" then return ← readDelete
  if ← keyword? "BEGIN" then
    if !(← keyword? "DEFERRED") then
      if !(← keyword? "IMMEDIATE") then discard (keyword? "EXCLUSIVE")
    transactionName
    return .begin
  if ← keyword? "ROLLBACK" then
    transactionName
    return .rollback
  if !(← keyword? "COMMIT") then keyword "END"
  transactionName
  return .commit

-- Statements with semicolons between them; there may be none between two semicolons.
def readAll : Nat → Reader (List Statement)
  | 0 => failure
  | fuel + 1 => do
    if ← symbol? ";" then return ← readAll fuel
    if (← peek).isNone then return []
    let first ← read
    atEnd
    return first :: (← readAll fuel)

def ofScript? (script : String) : Option (List Statement) :=
  (((do readAll (← fuel)) : Reader _).run (lexemes script)).map (·.1)

end TableForge.Script.Statement
