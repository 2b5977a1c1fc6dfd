import TableForge.Toml.Node
import TableForge.Toml.Quoted
import TableForge.Toml.Scalar

namespace TableForge.Toml

def skipBlanks (s : List Char) : List Char := s.dropWhile fun c => c = ' ' || c = '\t'

-- The text without the blanks, line breaks and comments in front of it; `inComment` tells that
-- it begins inside of a comment.
def skipLines : Bool → List Char → Option (List Char)
  | _, [] => some []
  | _, '\n' :: rest => skipLines false rest
  | _, '\r' :: '\n' :: rest => skipLines false rest
  | true, c :: rest => if isTextChar c then skipLines true rest else none
  | false, '#' :: rest => skipLines true rest
  | false, ' ' :: rest => skipLines false rest
  | false, '\t' :: rest => skipLines false rest
  | false, s => some s

def endLine? (s : List Char) : Option (List Char) :=
  let s := skipBlanks s
  if s.isEmpty || startsLine s || s.head? = some '#' then some s else none

def expect? (head : Char) (s : List Char) : Option (List Char) :=
  match skipBlanks s with
  | c :: rest => if c = head then some (skipBlanks rest) else none
  | [] => none

def isBareKeyChar (c : Char) : Bool := c.isAlphanum || c = '_' || c = '-'

def readKey? (s : List Char) : Option (String × List Char) :=
  match s.takeWhile isBareKeyChar with
  | [] => (readString? s).map fun (key, rest) => (String.ofList key, rest)
  | key => some (String.ofList key, s.dropWhile isBareKeyChar)

def readPath : Nat → List Char → Option (List String × List Char)
  | 0, _ => none
  | fuel + 1, s => do
    let (key, rest) ← readKey? s
    match expect? '.' rest with
    | none => return ([key], rest)
    | some rest =>
      let (path, rest) ← readPath fuel rest
      return (key :: path, rest)

def maxDepth : Nat := 79

-- A key of no more parts than values may be nested deep.
def readPath? (s : List Char) : Option (List String × List Char) := readPath maxDepth s

mutual

-- A value at the beginning of a text. Each call takes a unit of fuel, and each bracket or brace
-- that is opened a level of depth.
def readValue : Nat → Nat → List Char → Option (Node × List Char)
  | 0, _, _ => none
  | fuel + 1, depth, s =>
    match s, depth with
    | '[' :: rest, depth + 1 =>
      (readItems fuel depth rest).map fun (items, rest) => (.array items, rest)
    | '\x7b' :: rest, depth + 1 =>
      match skipBlanks rest with
      | '\x7d' :: rest => some (.table .closed [], rest)
      | rest => (readEntries fuel depth [] rest).map fun (es, rest) => (.table .closed es, rest)
    | s, _ =>
      match readAnyString? s with
      | some (content, rest) => some (.text (String.ofList content), rest)
      | none => (readScalar? s).map fun (_, rest) => (.scalar, rest)

def readItems : Nat → Nat → List Char → Option (List Node × List Char)
  | 0, _, _ => none
  | fuel + 1, depth, s => do
    match ← skipLines false s with
    | ']' :: rest => return ([], rest)
    | s =>
      let (item, rest) ← readValue fuel depth s
      match ← skipLines false rest with
      | ']' :: rest => return ([item], rest)
      | ',' :: rest =>
        let (items, rest) ← readItems fuel depth rest
        return (item :: items, rest)
      | _ => none

def readEntries : Nat → Nat → Entries → List Char → Option (Entries × List Char)
  | 0, _, _, _ => none
  | fuel + 1, depth, entries, s => do
    let (path, rest) ← readPath? (skipBlanks s)
    let (node, rest) ← readValue fuel depth (← expect? '=' rest)
    let entries ← entries.insert path node
    match skipBlanks rest with
    | '\x7d' :: rest => return (entries, rest)
    | ',' :: rest => readEntries fuel depth entries rest
    | _ => none

end

-- A line of a document: the header of a table, or a key with its value.
inductive Statement where
  | header (several : Bool) (path : List String)
  | entry (path : List String) (node : Node)

def readHeader? (several : Bool) (s : List Char) : Option (Statement × List Char) := do
  let (path, rest) ← readPath? (skipBlanks s)
  match skipBlanks rest, several with
  | ']' :: rest, false => return (.header several path, rest)
  | ']' :: ']' :: rest, true => return (.header several path, rest)
  | _, _ => none

def readStatement? : List Char → Option (Statement × List Char)
  | '[' :: '[' :: rest => readHeader? true rest
  | '[' :: rest => readHeader? false rest
  | s => do
    let (path, rest) ← readPath? s
    let rest ← expect? '=' rest
    let (node, rest) ← readValue (rest.length + 1) maxDepth rest
    return (.entry path node, rest)

-- All statements of a document. Each one is at least a character long.
def readStatements : Nat → List Char → Option (List Statement)
  | 0, _ => none
  | fuel + 1, s => do
    match ← skipLines false s with
    | [] => return []
    | s =>
      let (statement, rest) ← readStatement? s
      return statement :: (← readStatements fuel (← endLine? rest))

def leadingEntries : List Statement → List (List String × Node)
  | .entry path node :: rest => (path, node) :: leadingEntries rest
  | _ => []

def defineAll : List Statement → Entries → Option Entries
  | [], entries => some entries
  | .entry .. :: rest, entries => defineAll rest entries
  | .header several path :: rest, entries => do
    defineAll rest (← entries.define several (leadingEntries rest) path)

-- The entries of a document. A byte-order mark in front of it does not count.
def read? (s : String) : Option Entries := do
  let chars := match s.toList with
    | c :: rest => if c.toNat = 0xFEFF then rest else c :: rest
    | [] => []
  let statements ← readStatements (chars.length + 1) chars
  defineAll statements (← Entries.insertAll (leadingEntries statements) [])

end TableForge.Toml
