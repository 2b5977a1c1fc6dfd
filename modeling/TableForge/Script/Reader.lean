import TableForge.Script.Token

namespace TableForge.Script

-- A reader takes lexemes from the front of a script and fails at what it does not expect.
abbrev Reader := StateT (List Lexeme) Option

-- Words that cannot be names unless they are quoted.
def reservedWords : List String := [
  "ADD", "ALL", "ALTER", "AND", "AS", "AUTOINCREMENT", "BETWEEN", "CASE", "CHECK", "COLLATE",
  "COMMIT", "CONSTRAINT", "CREATE", "DEFAULT", "DEFERRABLE", "DELETE", "DISTINCT", "DROP",
  "ELSE", "ESCAPE", "EXCEPT", "EXISTS", "FOREIGN", "FROM", "GROUP", "HAVING", "IN", "INDEX",
  "INSERT", "INTERSECT", "INTO", "IS", "ISNULL", "JOIN", "LIMIT", "NOT", "NOTHING", "NOTNULL",
  "NULL", "ON", "OR", "ORDER", "PRIMARY", "REFERENCES", "RETURNING", "SELECT", "SET", "TABLE",
  "THEN", "TO", "TRANSACTION", "UNION", "UNIQUE", "UPDATE", "USING", "VALUES", "WHEN", "WHERE"]

-- Words that can be names but not a part of a type.
def joinWords : List String := [
  "CROSS", "FULL", "INDEXED", "INNER", "LEFT", "NATURAL", "OUTER", "RIGHT"]

def isReserved (word : String) : Bool := reservedWords.any (Text.sameLetters word)

-- The characters from the first of the lexemes to the last one, without what stands before it.
def textOf : List Lexeme → List Char
  | [] => []
  | first :: rest => first.raw ++ rest.flatMap fun l => l.lead ++ l.raw

namespace Reader

def peek : Reader (Option Token) := fun s => some ((s.head?).map (·.token), s)

def next {α : Type} (f : Token → Option α) : Reader α := fun
  | [] => none
  | l :: rest => (f l.token).map (·, rest)

def skipIf (p : Token → Bool) : Reader Bool := fun
  | [] => some (false, [])
  | l :: rest => if p l.token then some (true, rest) else some (false, l :: rest)

def isWord (keyword : String) : Token → Bool
  | .word w => Text.sameLetters w keyword
  | _ => false

def keyword? (k : String) : Reader Bool := skipIf (isWord k)

def keyword (k : String) : Reader Unit := do if !(← keyword? k) then failure

def keywords (ks : List String) : Reader Unit := ks.forM keyword

def symbol? (s : String) : Reader Bool := skipIf (· == .symbol s)

def symbol (s : String) : Reader Unit := do if !(← symbol? s) then failure

-- The name that a token can be: a word that is not reserved, or anything in quotes.
def nameOf? : Token → Option String
  | .word w => if isReserved w then none else some w
  | .quotedName _ s => some s
  | .text s => some s
  | _ => none

def name : Reader String := next nameOf?

-- The result of a reader, or nothing and no step when it fails.
def attempt {α : Type} (r : Reader α) : Reader (Option α) := fun s =>
  match r s with
  | some (a, rest) => some (some a, rest)
  | none => some (none, s)

def withLexemes {α : Type} (r : Reader α) : Reader (α × List Lexeme) := fun s =>
  (r s).map fun (a, rest) => ((a, s.take (s.length - rest.length)), rest)

-- One or more items with commas between them; `fuel` bounds their number.
def commaSeparated {α : Type} (item : Reader α) : Nat → Reader (List α)
  | 0 => failure
  | fuel + 1 => do
    let first ← item
    if ← symbol? "," then return first :: (← commaSeparated item fuel) else return [first]

-- Items as long as the reader finds one; `fuel` bounds their number.
def many {α : Type} (item : Reader (Option α)) : Nat → Reader (List α)
  | 0 => failure
  | fuel + 1 => do
    match ← item with
    | none => return []
    | some a => return a :: (← many item fuel)

def fuel : Reader Nat := fun s => some (s.length + 1, s)

def listOf {α : Type} (item : Reader α) : Reader (List α) := do
  symbol "("
  let items ← commaSeparated item (← fuel)
  symbol ")"
  return items

end Reader

end TableForge.Script
