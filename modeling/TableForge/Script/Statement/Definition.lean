import TableForge.Script.Expr.Reader
import TableForge.Script.Statement.Basic

-- Readers for the parts of table, index and view definitions.
namespace TableForge.Script.Definition

open Reader

def objectName : Reader ObjectName := do
  let first ← name
  if ← symbol? "." then return ⟨some first, ← name⟩
  return ⟨none, first⟩

def resolution : Reader Conflict := next fun token =>
  if isWord "IGNORE" token then some .ignore
  else if isWord "REPLACE" token then some .replace
  else if isWord "ABORT" token then some .abort
  else if isWord "FAIL" token then some .fail
  else if isWord "ROLLBACK" token then some .rollback
  else none

def onConflict? : Reader (Option Conflict) := do
  if !(← keyword? "ON") then return none
  keyword "CONFLICT"
  return some (← resolution)

def isDescending : Reader Bool := do
  if ← keyword? "ASC" then return false
  keyword? "DESC"

def keyPart : Reader KeyPart := do
  let e ← Expr.read
  return ⟨e, ← isDescending⟩

def action : Reader ReferenceAction := do
  if ← keyword? "CASCADE" then return .cascade
  if ← keyword? "RESTRICT" then return .restrict
  if ← keyword? "SET" then
    if ← keyword? "NULL" then return .setNull
    keyword "DEFAULT"
    return .setDefault
  keywords ["NO", "ACTION"]
  return .none

-- Actions and match types of a reference, as far as they go. What is told to happen on an
-- insertion never does.
def actions : Nat → Reference → Reader Reference
  | 0, _ => failure
  | fuel + 1, r => do
    if ← keyword? "MATCH" then
      discard name
      actions fuel r
    else if ← keyword? "ON" then
      if ← keyword? "DELETE" then actions fuel { r with onDelete := ← action }
      else if ← keyword? "UPDATE" then actions fuel { r with onUpdate := ← action }
      else
        keyword "INSERT"
        discard action
        actions fuel r
    else return r

-- Whether a reference is only checked at the end of the transaction, behind its keyword.
def initiallyDeferred : Reader Bool := do
  if !(← keyword? "INITIALLY") then return false
  if ← keyword? "DEFERRED" then return true
  keyword "IMMEDIATE"
  return false

def deferral? : Reader (Option Bool) := do
  if ← keyword? "DEFERRABLE" then return some (← initiallyDeferred)
  match ← attempt (keywords ["NOT", "DEFERRABLE"]) with
  | some _ =>
    discard initiallyDeferred
    return some false
  | none => return none

def reference : Reader Reference := do
  let table ← name
  let columns ← do
    if (← peek) == some (.symbol "(") then listOf name else pure []
  actions (← fuel) ⟨table, columns, .none, .none, false⟩

def parenthesised : Reader Expr := do
  symbol "("
  let e ← Expr.read
  symbol ")"
  return e

def signedLiteral : Reader Expr := do
  match ← Expr.literal? with
  | some e => return e
  | none => failure

-- A default value behind its keyword: a literal, perhaps with a sign, an expression in
-- parentheses, or a word that stands for its own text unless it is a truth value.
def defaultValue : Reader Expr := do
  if (← peek) == some (.symbol "(") then return ← parenthesised
  if ← symbol? "+" then return ← signedLiteral
  if ← symbol? "-" then return .signed .negate (← signedLiteral)
  match ← Expr.literal? with
  | some e => return e
  | none =>
    next fun
      | .quotedName _ s => some (.literal (.ofText s))
      | .word w =>
        if isReserved w || joinWords.any (Text.sameLetters w) && !Text.sameLetters w "INDEXED" then
          none
        else
          match Expr.truthOf? w with
          | some b => some (.literal (.ofBool b))
          | none => some (.literal (.ofText w))
      | _ => none

-- A value computed from other columns behind its keyword, and whether it is kept in the row.
def generatedValue : Reader ColumnRule := do
  let e ← parenthesised
  if ← keyword? "STORED" then return .generated e true
  discard (keyword? "VIRTUAL")
  return .generated e false

def columnRule? : Reader (Option ColumnRule) := do
  if ← keyword? "CONSTRAINT" then
    discard name
    return some .idle
  if ← keyword? "DEFAULT" then return some (.default (← defaultValue))
  if ← keyword? "NULL" then
    discard onConflict?
    return some .idle
  if ← keyword? "PRIMARY" then
    keyword "KEY"
    let descending ← isDescending
    let conflict ← onConflict?
    return some (.primaryKey descending conflict (← keyword? "AUTOINCREMENT"))
  if ← keyword? "UNIQUE" then return some (.unique (← onConflict?))
  if ← keyword? "CHECK" then return some (.check (← parenthesised))
  if ← keyword? "REFERENCES" then return some (.references (← reference))
  if ← keyword? "COLLATE" then
    return some (.collate (← Expr.readCollation))
  if ← keyword? "AS" then return some (← generatedValue)
  if ← keyword? "GENERATED" then
    keywords ["ALWAYS", "AS"]
    return some (← generatedValue)
  if let some deferred ← deferral? then return some (.deferral deferred)
  if ← keyword? "NOT" then
    keyword "NULL"
    return some (.notNull (← onConflict?))
  return none

def trimEnd (s : List Char) : List Char := (s.reverse.dropWhile Token.continuesSpace).reverse

def dropEnd? (word : String) (s : List Char) : Option (List Char) :=
  let kept := s.take (s.length - word.length)
  if Text.sameLetters (String.ofList (s.drop kept.length)) word then some (trimEnd kept) else none

-- The words that announce a generated value have been read as the end of the type.
def dropGenerated (type : List Char) : List Char :=
  if type.length < 16 then type
  else
    match dropEnd? "ALWAYS" type with
    | none => type
    | some rest => (dropEnd? "GENERATED" rest).getD rest

def isQuote (c : Char) : Bool := c = '"' || c = '\'' || c = '[' || c = '\x60'

-- A type in quotes without them, unless there are more quotes inside.
def unquoteType (type : List Char) : List Char :=
  match type with
  | q :: c :: rest =>
    let inner := (c :: rest).dropLast
    if isQuote q && !inner.any isQuote then inner else type
  | _ => type

def column : Reader ColumnDefinition := do
  let columnName ← name
  let written := dropGenerated (← Expr.typeText)
  let type := Expr.firstQuoted (unquoteType written)
  let rules ← many columnRule? (← fuel)
  return ⟨columnName, type, if written.isEmpty then .blob else .ofDeclared type, rules⟩

def tableRule? : Reader (Option TableRule) := do
  if ← keyword? "CONSTRAINT" then
    discard name
    return some .idle
  if ← keyword? "PRIMARY" then
    keyword "KEY"
    symbol "("
    let parts ← commaSeparated keyPart (← fuel)
    let autoincrement ← keyword? "AUTOINCREMENT"
    symbol ")"
    return some (.primaryKey parts (← onConflict?) autoincrement)
  if ← keyword? "UNIQUE" then
    let parts ← listOf keyPart
    return some (.unique parts (← onConflict?))
  if ← keyword? "CHECK" then
    let e ← parenthesised
    discard onConflict?
    return some (.check e)
  if ← keyword? "FOREIGN" then
    keyword "KEY"
    let columns ← listOf name
    keyword "REFERENCES"
    let r ← reference
    return some (.foreignKey columns { r with deferred := (← deferral?).getD false })
  return none

def tableRule : Reader TableRule := do
  match ← tableRule? with
  | some rule => return rule
  | none => failure

-- Rules behind the columns and a comma. Between two rules the comma may be missing.
def tableRules : Reader (List TableRule) := do
  if !(← symbol? ",") then return []
  let first ← tableRule
  let another : Reader (Option TableRule) := do
    if ← symbol? "," then some <$> tableRule else tableRule?
  return first :: (← many another (← fuel))

def startsTableRule (token : Token) : Bool :=
  ["CONSTRAINT", "PRIMARY", "UNIQUE", "CHECK", "FOREIGN"].any (isWord · token)

def columns : Nat → Reader (List ColumnDefinition)
  | 0 => failure
  | fuel + 1 => do
    let first ← column
    let ahead : Reader Bool := do
      symbol ","
      return startsTableRule ((← peek).getD .broken)
    match ← attempt (do if ← ahead then failure) with
    | some _ => return first :: (← columns fuel)
    | none => return [first]

-- What a table option sets: rows without a number of their own, or strict types.
inductive TableOption where
  | withoutRowid
  | strict
  deriving DecidableEq

def tableOption : Reader TableOption := do
  if ← keyword? "WITHOUT" then
    keyword "ROWID"
    return .withoutRowid
  keyword "STRICT"
  return .strict

def tableOptions : Reader (List TableOption) := do
  match ← attempt tableOption with
  | none => return []
  | some first =>
    if ← symbol? "," then return first :: (← commaSeparated tableOption (← fuel))
    return [first]

def ifMissing : Reader Bool := do
  if !(← keyword? "IF") then return false
  keywords ["NOT", "EXISTS"]
  return true

def fromOwnName (name : ObjectName) (taken : List Lexeme) : List Lexeme :=
  match name.schema with
  | none => taken
  | some _ => taken.drop 2

def leadOfEnd : Reader (List Char) := fun s =>
  match s with
  | l :: _ => some (if l.token = .symbol ";" then l.lead else [], s)
  | [] => some ([], [])

-- A table behind its keyword. Its text begins at its own name and ends with its parenthesis,
-- unless there are options: then it runs up to the end of the statement.
def table (temporary : Bool) : Reader TableDefinition := do
  let ifMissing ← ifMissing
  let ((name, found, rules, options), taken) ← withLexemes do
    let name ← objectName
    symbol "("
    let found ← columns (← fuel)
    let rules ← tableRules
    symbol ")"
    return (name, found, rules, ← tableOptions)
  let tail ← do if options.isEmpty then pure [] else leadOfEnd
  let text := textOf (fromOwnName name taken) ++ tail
  return {
    temporary, ifMissing, name, rules
    columns := found
    withoutRowid := options.contains .withoutRowid
    strict := options.contains .strict
    text := "CREATE TABLE " ++ String.ofList text }

-- An index behind its keyword. Its text begins at its own name and runs up to the end of the
-- statement.
def index (unique : Bool) : Reader IndexDefinition := do
  let ifMissing ← ifMissing
  let ((name, table, parts, condition), taken) ← withLexemes do
    let name ← objectName
    keyword "ON"
    let table ← Reader.name
    let parts ← listOf keyPart
    let condition ← do
      if ← keyword? "WHERE" then some <$> Expr.read else pure none
    return (name, table, parts, condition)
  let text := textOf (fromOwnName name taken) ++ (← leadOfEnd)
  return {
    unique, ifMissing, name, table, parts, condition
    text := (if unique then "CREATE UNIQUE INDEX " else "CREATE INDEX ") ++ String.ofList text }

def atEnd : Reader Unit := do
  match ← peek with
  | none => return
  | some token => if token ≠ .symbol ";" then failure

end TableForge.Script.Definition
