import TableForge.Script.Statement.Definition

-- Readers for queries and views. Queries are read in all their forms, but only those that read at
-- most one table at a time can be answered.
namespace TableForge.Script.Definition

open Reader

structure QueryShape where
  query : Option Query
  schemas : List String

-- A query that is not put together from others, with its order and its bounds.
structure PartShape where
  part : Option QueryPart
  order : List (KeyPart × Bool)
  bounds : Option (Expr × Option Expr)
  schemas : List String

def bareName : Reader String := next fun token =>
  match token with
  | .word w => if joinWords.any (Text.sameLetters w) then none else nameOf? token
  | token => nameOf? token

def givenName? : Reader (Option String) := do
  if ← keyword? "AS" then return some (← name)
  attempt bareName

def tableItem : Reader SelectItem := do
  let table ← name
  symbol "."
  symbol "*"
  return .all (some table)

def selectItem : Reader SelectItem := do
  if ← symbol? "*" then return .all none
  match ← attempt tableItem with
  | some item => return item
  | none =>
    let (e, taken) ← withLexemes Expr.read
    return .expr e (← givenName?) (String.ofList (textOf taken))

def behind? {α : Type} (word : String) (r : Reader α) : Reader (Option α) := do
  if ← keyword? word then some <$> r else return none

def orderPart : Reader (KeyPart × Bool) := do
  let part ← keyPart
  if ← keyword? "NULLS" then
    if !(← keyword? "FIRST") then keyword "LAST"
    return (part, true)
  return (part, false)

def order : Reader (List (KeyPart × Bool)) := do
  keyword "BY"
  commaSeparated orderPart (← fuel)

def limits : Reader (Expr × Option Expr) := do
  let first ← Expr.read
  if ← symbol? "," then return (← Expr.read, some first)
  return (first, ← behind? "OFFSET" Expr.read)

def groupParts : Reader (List Expr) := do
  keyword "BY"
  commaSeparated Expr.read (← fuel)

def windows : Reader Unit := do
  keyword "WINDOW"
  discard (commaSeparated (do
    discard name
    keyword "AS"
    Expr.callRows) (← fuel))

-- How two tables are joined; the words must go together.
def join? : Reader Bool := do
  if ← symbol? "," then return true
  let joined ← attempt do
    let words ← many (attempt (next fun
      | .word w => joinWords.find? (Text.sameLetters w)
      | _ => none)) (← fuel)
    keyword "JOIN"
    let isInner := words.any fun w => w == "INNER" || w == "CROSS"
    let isOneSided := words.any fun w => w == "LEFT" || w == "RIGHT" || w == "FULL"
    let isOuter := words.contains "OUTER"
    if 3 < words.length || words.contains "INDEXED" then failure
    if (isInner && (isOneSided || isOuter)) || (isOuter && !isOneSided) then failure
  return joined.isSome

def joinCondition : Reader Unit := do
  discard (behind? "ON" Expr.read)
  discard (behind? "USING" (listOf name))

def indexHint : Reader Bool := do
  if ← keyword? "INDEXED" then
    keyword "BY"
    discard name
    return true
  return (← attempt (keywords ["NOT", "INDEXED"])).isSome

-- Values in parentheses with commas between the lists. Constants must be as many in each list.
def valueLists : Reader (List (List Expr)) := do
  let rows ← commaSeparated (listOf Expr.read) (← fuel)
  let isSame (row : List Expr) : Bool := rows.head?.any (·.length = row.length)
  if !rows.all isSame && rows.all (Expr.areConstant false false) then failure
  return rows

def combination? : Reader (Option Combination) := do
  if ← keyword? "UNION" then return some (if ← keyword? "ALL" then .unionAll else .union)
  if ← keyword? "EXCEPT" then return some .except
  if ← keyword? "INTERSECT" then return some .intersect
  return none

mutual

-- A query behind nothing. Each call takes a unit of fuel.
def wholeQuery : Nat → Reader QueryShape
  | 0 => failure
  | fuel + 1 => do
    let named ← behind? "WITH" do
      discard (keyword? "RECURSIVE")
      commaSeparated (namedQuery fuel) (← Reader.fuel)
    let first ← queryPart fuel
    let rest ← many (do
      match ← combination? with
      | some c => return some (c, ← queryPart fuel)
      | none => return none) (← Reader.fuel)
    let parts := first :: rest.map (·.2)
    if parts.dropLast.any fun p => !p.order.isEmpty || p.bounds.isSome then failure
    let order := (parts.getLast?.map (·.order)).getD []
    let bounds := parts.getLast?.bind (·.bounds)
    let query : Option Query := do
      if named.isSome || order.any (·.2) then none
      return {
        first := ← first.part
        rest := ← rest.mapM fun (c, p) => p.part.map (c, ·)
        order := order.map (·.1)
        limit := bounds.map (·.1)
        offset := bounds.bind (·.2) }
    return ⟨query, (named.getD []).flatMap (·.schemas) ++ parts.flatMap (·.schemas)⟩

def namedQuery : Nat → Reader QueryShape
  | 0 => failure
  | fuel + 1 => do
    discard name
    if (← peek) == some (.symbol "(") then discard (listOf name)
    keyword "AS"
    if !(← keyword? "MATERIALIZED") then discard (attempt (keywords ["NOT", "MATERIALIZED"]))
    symbol "("
    let found ← wholeQuery fuel
    symbol ")"
    return found

def queryPart : Nat → Reader PartShape
  | 0 => failure
  | fuel + 1 => do
    if ← keyword? "VALUES" then return ⟨some (.values (← valueLists)), [], none, []⟩
    keyword "SELECT"
    let distinct ← keyword? "DISTINCT"
    if !distinct then discard (keyword? "ALL")
    let items ← commaSeparated selectItem (← Reader.fuel)
    let source ← behind? "FROM" (sources fuel)
    let condition ← behind? "WHERE" Expr.read
    let groups := (← behind? "GROUP" groupParts).getD []
    let having ← behind? "HAVING" Expr.read
    let hasWindows := (← attempt windows).isSome
    let order := (← behind? "ORDER" order).getD []
    let bounds ← behind? "LIMIT" limits
    let table := source.bind (·.1)
    let select : Select := {
      distinct, items, condition, groups, having
      table := table.map (·.1)
      tableName := table.bind (·.2) }
    let isSimple := source.all (·.1.isSome) && !hasWindows
    return ⟨if isSimple then some (.select select) else none, order, bounds, source.elim [] (·.2)⟩

-- The tables that a query reads: a single one with the name that it gets, and the schemas of all.
def sources : Nat → Reader (Option (ObjectName × Option String) × List String)
  | 0 => failure
  | fuel + 1 => do
    let (first, schemas) ← source fuel
    if !(← join?) then return (first, schemas)
    let (_, more) ← sources fuel
    return (none, schemas ++ more)

def source : Nat → Reader (Option (ObjectName × Option String) × List String)
  | 0 => failure
  | fuel + 1 => do
    if ← symbol? "(" then
      let schemas ← do
        if Expr.startsQuery ((← peek).getD .broken) then pure (← wholeQuery fuel).schemas
        else pure (← sources fuel).2
      symbol ")"
      discard givenName?
      joinCondition
      return (none, schemas)
    let table ← objectName
    let isCall ← symbol? "("
    if isCall then Expr.closeParenthesis (← Reader.fuel) 0
    let given ← givenName?
    let hinted ← indexHint
    joinCondition
    return (if isCall || hinted then none else some (table, given), table.schema.toList)

end

-- A view behind its keyword. Its text begins at its own name and runs up to the end of the
-- statement, without spaces there. Nothing in it may still be given.
def view (temporary : Bool) : Reader ViewDefinition := do
  let ifMissing ← ifMissing
  let ((name, columns, query), taken) ← withLexemes do
    let name ← objectName
    let columns ← do
      if (← peek) == some (.symbol "(") then listOf Reader.name else pure []
    keyword "AS"
    return (name, columns, ← wholeQuery (← fuel))
  if taken.any (·.token == .parameter) then failure
  let text := trimEnd (textOf (fromOwnName name taken) ++ (← leadOfEnd))
  return {
    temporary, ifMissing, name, columns
    query := query.query
    schemas := query.schemas
    text := "CREATE VIEW " ++ String.ofList text }

end TableForge.Script.Definition
