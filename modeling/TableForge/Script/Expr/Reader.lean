import TableForge.Function.Aggregate
import TableForge.Script.Expr.Basic
import TableForge.Script.Reader

namespace TableForge.Script.Expr

open Reader

-- A number without a sign. Hexadecimal digits give the bits of an integer, and decimal ones an
-- integer as long as its negative is one.
def numberOf (s : List Char) : Expr :=
  if Token.isHexNumber s then
    .bits ((s.drop 2).foldl (fun n c => n * 16 + Token.hexValue c) 0)
  else
    match Numeral.readAll s with
    | none => .literal .null
    | some n =>
      if n.isWhole && (n.size : Int) ≤ -Numeral.minInt then .whole n.size
      else .literal (.real n.toReal)

def operatorOf? : Token → Option (BinaryOp × Nat)
  | .symbol "=" | .symbol "==" => some (.eq, 4)
  | .symbol "<>" | .symbol "!=" => some (.ne, 4)
  | .symbol "<" => some (.lt, 5)
  | .symbol "<=" => some (.le, 5)
  | .symbol ">" => some (.gt, 5)
  | .symbol ">=" => some (.ge, 5)
  | .symbol "&" => some (.bitAnd, 7)
  | .symbol "|" => some (.bitOr, 7)
  | .symbol "<<" => some (.shiftLeft, 7)
  | .symbol ">>" => some (.shiftRight, 7)
  | .symbol "+" => some (.add, 8)
  | .symbol "-" => some (.sub, 8)
  | .symbol "*" => some (.mul, 9)
  | .symbol "/" => some (.div, 9)
  | .symbol "%" => some (.rem, 9)
  | .symbol "||" => some (.concat, 10)
  | .word w =>
    if Text.sameLetters w "OR" then some (.or, 1)
    else if Text.sameLetters w "AND" then some (.and, 2)
    else none
  | _ => none

def arrowOf? : Token → Option String
  | .symbol "->" => some "->"
  | .symbol "->>" => some "->>"
  | _ => none

def patternTestOf? : Token → Option String
  | .word w => ["LIKE", "GLOB", "REGEXP", "MATCH"].find? (Text.sameLetters w)
  | _ => none

def binaryOf (op : BinaryOp) (l r : Expr) : Expr :=
  match op with
  | .and => .both l r
  | op => .binary op l r

-- A test for one of several values. One with no value holds for nothing, whatever stands before
-- it; one with a single constant is a comparison.
def membershipOf (left : Expr) (candidates : List Expr) : Expr :=
  match left, candidates with
  | _, [] => .whole 0
  | .row l, candidates => .isIn (.row l) candidates
  | left, [e] =>
    if e.isConstant false true then .binary .eq left (.signed .plus e) else .isIn left [e]
  | left, candidates => .isIn left candidates

def clockWords : List String := ["CURRENT_TIME", "CURRENT_DATE", "CURRENT_TIMESTAMP"]

def literalOf? : Token → Option Expr
  | .number s => some (numberOf s.toList)
  | .text s => some (.literal (.ofText s))
  | .blob bytes => some (.literal (.blob bytes))
  | .word w =>
    if Text.sameLetters w "NULL" then some (.literal .null)
    else if clockWords.any (Text.sameLetters w) then some (.call w [])
    else none
  | _ => none

def literal? : Reader (Option Expr) := attempt (next literalOf?)

def isTypeWord : Token → Bool
  | .word w => !isReserved w && !joinWords.any (Text.sameLetters w)
  | .quotedName .. | .text _ => true
  | _ => false

-- The name of a collation. One that is a keyword for joins has to be quoted.
def readCollation : Reader (Option Collation) :=
  next fun token => if isTypeWord token then (nameOf? token).map Collation.ofName? else none

-- A number with a sign or without; there must be no marks between its digits.
def signedNumber : Reader Unit := do
  if !(← symbol? "-") then discard (symbol? "+")
  let (found, taken) ← withLexemes (next fun token => some (token matches .number _))
  if !found || taken.any (·.raw.contains '_') then failure

-- The name of a type as it is written, with its sizes; it may be missing.
def typeText : Reader (List Char) := do
  let (_, taken) ← withLexemes do
    let words ← many (do return if ← skipIf isTypeWord then some () else none) (← fuel)
    if !words.isEmpty then
      if ← symbol? "(" then
        signedNumber
        if ← symbol? "," then signedNumber
        symbol ")"
  return textOf taken

-- Of a type that begins with a quote, only what stands in its first quotes.
def firstQuoted (type : List Char) : String :=
  match Token.ofRaw (type.take (Token.length type)) with
  | .text s | .quotedName _ s => s
  | _ => String.ofList type

def quotingOf? : Token → Option (String × Quoting)
  | .quotedName q s => some (s, if q = '"' then .double else .other)
  | .word w => if isReserved w then none else some (w, .bare)
  | _ => none

def ownedName (first : String) : Reader Expr := do
  let second ← next fun token => (nameOf? token).map (·, quotingOf? token)
  let quotingOf (part : String × Option (String × Quoting)) : Quoting :=
    part.2.elim .other (·.2)
  if !(← symbol? ".") then return .name [first] second.1 (quotingOf second)
  let third ← next fun token => (nameOf? token).map (·, quotingOf? token)
  return .name [first, second.1] third.1 (quotingOf third)

def startsQuery (token : Token) : Bool := ["SELECT", "VALUES", "WITH"].any (isWord · token)

-- Passes tokens up to the parenthesis that closes one which is open. Every token must be one;
-- `depth` counts those that are open inside.
def closeParenthesis : Nat → Nat → Reader Unit
  | 0, _ => failure
  | fuel + 1, depth => do
    match ← next some with
    | .broken | .symbol ";" => failure
    | .symbol "(" => closeParenthesis fuel (depth + 1)
    | .symbol ")" =>
      match depth with
      | 0 => return
      | depth + 1 => closeParenthesis fuel depth
    | _ => closeParenthesis fuel depth

def nestedQuery? : Reader Bool := do
  if !startsQuery ((← peek).getD .broken) then return false
  closeParenthesis (← fuel) 0
  return true

def callRows : Reader Unit := do
  symbol "("
  closeParenthesis (← fuel) 0

def severalRows? : Reader Bool := do
  let filtered ← attempt do
    keyword "FILTER"
    callRows
  let windowed ← attempt do
    keyword "OVER"
    match ← attempt Reader.name with
    | some _ => return
    | none => callRows
  return filtered.isSome || windowed.isSome

def tableOfValues : Reader Unit := do
  discard Reader.name
  if ← symbol? "." then discard Reader.name
  if ← symbol? "(" then closeParenthesis (← fuel) 0

-- A call takes no more arguments than this.
def argumentLimit : Nat := 1000

-- A word that begins an expression of its own kind and is no name there.
def isExpressionWord (w : String) : Bool := ["CAST", "RAISE"].any (Text.sameLetters w)

mutual

-- An expression whose operators bind at least as tightly as `level`. Each call takes a unit of
-- fuel.
def expr : Nat → Nat → Reader Expr
  | 0, _ => failure
  | fuel + 1, level => do operators fuel level (← operand fuel)

def operand : Nat → Reader Expr
  | 0 => failure
  | fuel + 1 => do
    if ← symbol? "-" then return .signed .negate (← operand fuel)
    if ← symbol? "+" then return .signed .plus (← operand fuel)
    if ← symbol? "~" then return .unary .bitNot (← operand fuel)
    if ← symbol? "(" then
      if ← nestedQuery? then return .query
      let found ← items fuel
      symbol ")"
      return match found with
        | [e] => e
        | found => .row found
    if ← keyword? "NOT" then return .unary .not (← expr fuel 4)
    if ← keyword? "CASE" then return ← caseRest fuel
    if ← keyword? "EXISTS" then
      symbol "("
      if ← nestedQuery? then return .query else failure
    match ← next some with
    | .parameter => return .parameter
    | token =>
      match literalOf? token, token with
      | some (.literal (.text s)), .text owner =>
        if ← symbol? "." then ownedName owner else return .literal (.text s)
      | some e, _ => return e
      | none, token =>
        match quotingOf? token with
        | none => failure
        | some (w, quoting) =>
          if quoting = .bare && isExpressionWord w then castRest fuel w
          else if ← symbol? "." then ownedName w
          else if ← symbol? "(" then callRest fuel w
          else return .name [] w quoting

def castRest : Nat → String → Reader Expr
  | 0, _ => failure
  | fuel + 1, w => do
    if !Text.sameLetters w "CAST" then failure
    symbol "("
    let e ← expr fuel 0
    keyword "AS"
    let type ← typeText
    symbol ")"
    return .cast e (.ofDeclared (firstQuoted type))

-- A call behind its parenthesis. That its arguments are to be distinct does not matter for a
-- single row.
def callRest : Nat → String → Reader Expr
  | 0, _ => failure
  | fuel + 1, w => do
    if ← symbol? "*" then
      symbol ")"
      return if ← severalRows? then .query else .call w []
    let distinct ← keyword? "DISTINCT"
    if !distinct then discard (keyword? "ALL")
    let arguments ← argumentsRest fuel
    let ordered ← keyword? "ORDER"
    if ordered then
      keyword "BY"
      closeParenthesis (← Reader.fuel) 0
    else symbol ")"
    if argumentLimit < arguments.length then failure
    let severalRows ← severalRows?
    if ordered || severalRows then return .query
    let isAggregate := (Aggregate.find? w arguments.length).isSome
    return match distinct && isAggregate, arguments with
      | false, arguments => .call w arguments
      | true, [e] => .callOnce w e
      | true, _ => .query

def argumentsRest : Nat → Reader (List Expr)
  | 0 => failure
  | fuel + 1 => do
    if (← peek) == some (.symbol ")") || isWord "ORDER" ((← peek).getD .broken) then return []
    items fuel

def operators : Nat → Nat → Expr → Reader Expr
  | 0, _, _ => failure
  | fuel + 1, level, left => do
    let some token ← peek | return left
    if let some (op, binding) := operatorOf? token then
      if binding < level then return left
      discard (next some)
      return ← operators fuel level (binaryOf op left (← expr fuel (binding + 1)))
    if let some arrow := arrowOf? token then
      if 10 < level then return left
      discard (next some)
      return ← operators fuel level (.call arrow [left, ← expr fuel 11])
    if isWord "COLLATE" token then
      if 11 < level then return left
      discard (next some)
      return ← operators fuel level (.collate left (← readCollation))
    if 4 < level then return left
    if ← keyword? "ISNULL" then return ← operators fuel level (.unary .isNull left)
    if ← keyword? "NOTNULL" then return ← operators fuel level (.unary .notNull left)
    if ← keyword? "IS" then
      let negated ← keyword? "NOT"
      let distinct ← keyword? "DISTINCT"
      if distinct then keyword "FROM"
      let right ← expr fuel 5
      let op := if negated = distinct then BinaryOp.is else .isNot
      return ← operators fuel level (.binary op left right)
    if ← keyword? "NOT" then
      if ← keyword? "NULL" then return ← operators fuel level (.unary .notNull left)
      match ← membership fuel left with
      | some e => operators fuel level (.unary .not e)
      | none => failure
    else
      match ← membership fuel left with
      | some e => operators fuel level e
      | none => return left

def membership : Nat → Expr → Reader (Option Expr)
  | 0, _ => failure
  | fuel + 1, left => do
    let some token ← peek | return none
    if let some test := patternTestOf? token then
      discard (next some)
      let pattern ← expr fuel 5
      if ← keyword? "ESCAPE" then
        return some (.call test [pattern, left, ← expr fuel 5])
      return some (.call test [pattern, left])
    if ← keyword? "IN" then
      if !(← symbol? "(") then
        tableOfValues
        return some .query
      if ← nestedQuery? then return some .query
      if ← symbol? ")" then return some (membershipOf left [])
      let candidates ← items fuel
      symbol ")"
      return some (membershipOf left candidates)
    if ← keyword? "BETWEEN" then
      let low ← expr fuel 3
      keyword "AND"
      return some (.between left low (← expr fuel 5))
    return none

def items : Nat → Reader (List Expr)
  | 0 => failure
  | fuel + 1 => do
    let first ← expr fuel 0
    if ← symbol? "," then return first :: (← items fuel) else return [first]

-- A case distinction behind its first keyword. With a subject the conditions are values that
-- it is compared with.
def caseRest : Nat → Reader Expr
  | 0 => failure
  | fuel + 1 => do
    let subject ← do
      if isWord "WHEN" ((← peek).getD .broken) then pure none else some <$> expr fuel 0
    let found ← branches fuel
    let otherwise ← do
      if ← keyword? "ELSE" then pure [← expr fuel 0] else pure []
    keyword "END"
    return match subject with
      | some s => .casesOf s (found ++ otherwise)
      | none => .cases (found ++ otherwise)

def branches : Nat → Reader (List Expr)
  | 0 => failure
  | fuel + 1 => do
    keyword "WHEN"
    let condition ← expr fuel 0
    keyword "THEN"
    let value ← expr fuel 0
    if isWord "WHEN" ((← peek).getD .broken) then
      return condition :: value :: (← branches fuel)
    return [condition, value]

end

-- An expression that is not too deep. Seven calls lie between two lexemes at most.
def read : Reader Expr := do
  let e ← expr (7 * (← fuel)) 0
  if heightLimit < e.height then failure
  return e

end TableForge.Script.Expr
