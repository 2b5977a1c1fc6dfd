import TableForge.Text.Ascii

namespace TableForge.Script

inductive Token where
  -- a keyword or a name without quotes
  | word (s : String)
  -- a name in double quotes, brackets or back quotes, with the character that opens it
  | quotedName (quote : Char) (s : String)
  -- a text in single quotes
  | text (s : String)
  | blob (bytes : List UInt8)
  -- a number as it is written
  | number (s : String)
  | symbol (s : String)
  -- a mark for a value that is still to be given
  | parameter
  -- characters that spell no token
  | broken
  deriving DecidableEq, Repr

-- A token as it stands in the script: the white space and comments before it, and its own
-- characters.
structure Lexeme where
  lead : List Char
  raw : List Char
  token : Token
  deriving DecidableEq, Repr

namespace Token

def isWordStart (c : Char) : Bool := c.isAlpha || c = '_' || 128 ≤ c.toNat

def isNameChar (c : Char) : Bool := c.isAlphanum || c = '_' || c = '$' || 128 ≤ c.toNat

-- Characters that may begin a run of white space, and those that may continue it.
def isSpace (c : Char) : Bool :=
  c = ' ' || c = '\t' || c = '\n' || c = '\r' || c = '\x0c' || c.toNat = 0xFEFF

def continuesSpace (c : Char) : Bool := isSpace c || c = '\x0b'

def isHexDigit (c : Char) : Bool := c.isDigit || ('a' ≤ c.toLower && c.toLower ≤ 'f')

def hexValue (c : Char) : Nat :=
  if c.isDigit then c.toNat - '0'.toNat else c.toLower.toNat - 'a'.toNat + 10

def hexBytes : List Char → Option (List UInt8)
  | [] => some []
  | [_] => none
  | a :: b :: rest => (hexBytes rest).map (UInt8.ofNat (hexValue a * 16 + hexValue b) :: ·)

-- How many characters a comment of several lines has behind its opening; the closing may be
-- missing.
def commentLength : List Char → Nat
  | [] => 0
  | '*' :: '/' :: _ => 2
  | _ :: rest => commentLength rest + 1

def skipLength : List Char → Nat
  | [] => 0
  | '-' :: '-' :: rest => (rest.takeWhile (· ≠ '\n')).length + 2
  | '/' :: '*' :: c :: rest => commentLength (c :: rest) + 2
  | c :: rest => if isSpace c then (rest.takeWhile continuesSpace).length + 1 else 0

def quotedLength (q : Char) : List Char → Nat
  | [] => 0
  | [_] => 1
  | c :: d :: rest =>
    if c ≠ q then quotedLength q (d :: rest) + 1
    else if d = q then quotedLength q rest + 2
    else 1

def lengthThrough (c : Char) (s : List Char) : Nat :=
  let before := (s.takeWhile (· ≠ c)).length
  if before < s.length then before + 1 else before

def isDigitOrMark (c : Char) : Bool := c.isDigit || c = '_'

def exponentLength : List Char → Nat
  | e :: c :: rest =>
    if e ≠ 'e' && e ≠ 'E' then 0
    else if c.isDigit then (rest.takeWhile isDigitOrMark).length + 2
    else if (c = '+' || c = '-') && rest.head?.any Char.isDigit then
      (rest.takeWhile isDigitOrMark).length + 2
    else 0
  | _ => 0

def fractionLength : List Char → Nat
  | '.' :: rest => (rest.takeWhile isDigitOrMark).length + 1
  | _ => 0

def isHexNumber : List Char → Bool
  | '0' :: x :: d :: _ => (x = 'x' || x = 'X') && isHexDigit d
  | _ => false

def numberLength (s : List Char) : Nat :=
  if isHexNumber s then ((s.drop 2).takeWhile fun c => isHexDigit c || c = '_').length + 2
  else
    let whole := (s.takeWhile isDigitOrMark).length
    let fraction := fractionLength (s.drop whole)
    whole + fraction + exponentLength (s.drop (whole + fraction))

-- Symbols of several characters, longest first.
def longSymbols : List String := ["->>", "->", "||", "<=", "<>", "<<", ">=", ">>", "==", "!="]

def symbols : List String :=
  longSymbols ++ ["(", ")", ";", "+", "-", "*", "/", "%", "=", "<", ">", "|", ",", "&", "~", "."]

def symbolLength (s : List Char) : Nat :=
  ((longSymbols.find? fun long => long.toList.isPrefixOf s).map (·.length)).getD 1

def startsNumber : List Char → Bool
  | '.' :: d :: _ => d.isDigit
  | c :: _ => c.isDigit
  | [] => false

def isMark (c : Char) : Bool := c = '$' || c = '@' || c = '#' || c = ':'

-- How many characters belong to the name of a mark: those of a name, pairs of colons, and behind
-- these perhaps something in parentheses.
def markLength (hasName : Bool) : List Char → Nat
  | ':' :: ':' :: rest => markLength hasName rest + 2
  | '(' :: rest =>
    if hasName then
      let inner := (rest.takeWhile fun c => !isSpace c && c ≠ '\x0b' && c ≠ ')').length
      inner + (if rest[inner]? = some ')' then 2 else 1)
    else 0
  | c :: rest => if isNameChar c then markLength true rest + 1 else 0
  | [] => 0

def length : List Char → Nat
  | [] => 0
  | c :: rest =>
    if c = '\'' || c = '"' || c = '\x60' then quotedLength c rest + 1
    else if c = '[' then lengthThrough ']' rest + 1
    else if c = '?' then (rest.takeWhile Char.isDigit).length + 1
    else if isMark c then markLength false rest + 1
    else if startsNumber (c :: rest) then
      let body := numberLength (c :: rest)
      body + (((c :: rest).drop body).takeWhile isNameChar).length
    else if (c = 'x' || c = 'X') && rest.head? = some '\'' then lengthThrough '\'' rest.tail + 2
    else if isWordStart c then (rest.takeWhile isNameChar).length + 1
    else symbolLength (c :: rest)

-- The content of a quoted token behind its opening quote, when the closing quote ends it.
def content? (q : Char) : List Char → Option (List Char)
  | [] => none
  | [c] => if c = q then some [] else none
  | c :: d :: rest =>
    if c ≠ q then (content? q (d :: rest)).map (c :: ·)
    else if d = q then (content? q rest).map (q :: ·)
    else none

-- The digits of a number without the marks between them; each mark needs a digit on both sides.
def unmark? (isDigit : Char → Bool) : Option Char → List Char → Option (List Char)
  | _, [] => some []
  | before, c :: rest =>
    if c ≠ '_' then (unmark? isDigit (some c) rest).map (c :: ·)
    else if before.any isDigit && rest.head?.any isDigit then unmark? isDigit (some c) rest
    else none

def numberOf (raw : List Char) : Token :=
  let isDigit := if isHexNumber raw then isHexDigit else Char.isDigit
  if raw.length ≠ numberLength raw then .broken
  else (unmark? isDigit none raw).elim .broken fun digits => .number (String.ofList digits)

def blobOf (digits : List Char) : Token :=
  if digits.all isHexDigit then (hexBytes digits).elim .broken .blob else .broken

-- A mark for a value: a question mark, perhaps with a small number, or a name.
def parameterOf (raw : List Char) : Token :=
  match raw with
  | '?' :: digits =>
    let n := digits.foldl (fun n c => n * 10 + (c.toNat - '0'.toNat)) 0
    if digits.isEmpty || (1 ≤ n && n ≤ 32766) then .parameter else .broken
  | c :: rest =>
    let isOpen := rest.contains '(' && rest.getLast? ≠ some ')'
    if !rest.any isNameChar || isOpen || (c = '#' && rest.head?.any Char.isDigit) then .broken
    else .parameter
  | [] => .broken

def ofRaw (raw : List Char) : Token :=
  match raw with
  | [] => .broken
  | c :: rest =>
    if c = '\'' then (content? c rest).elim .broken fun s => .text (String.ofList s)
    else if c = '"' || c = '\x60' then
      (content? c rest).elim .broken fun s => .quotedName c (String.ofList s)
    else if c = '[' then
      if rest.getLast? = some ']' then .quotedName '[' (String.ofList rest.dropLast) else .broken
    else if c = '?' || isMark c then parameterOf raw
    else if startsNumber raw then numberOf raw
    else if (c = 'x' || c = 'X') && rest.head? = some '\'' then
      if rest.tail.getLast? = some '\'' then blobOf rest.tail.dropLast else .broken
    else if isWordStart c then .word (String.ofList raw)
    else
      let text := String.ofList raw
      if text ∈ symbols then .symbol text else .broken

end Token

-- The lexemes of a text and what stands behind the last one; `lead` is the white space and the
-- comments passed since the last token. Each step passes at least one character.
def scan : Nat → List Char → List Char → List Lexeme × List Char
  | 0, lead, s => ([], lead ++ s)
  | _ + 1, lead, [] => ([], lead)
  | fuel + 1, lead, s =>
    match Token.skipLength s with
    | 0 =>
      let raw := s.take (Token.length s)
      let (lexemes, trail) := scan fuel [] (s.drop (Token.length s))
      (⟨lead, raw, Token.ofRaw raw⟩ :: lexemes, trail)
    | n + 1 => scan fuel (lead ++ s.take (n + 1)) (s.drop (n + 1))

-- The lexemes of a script, which ends at its first zero character. The end counts as a semicolon
-- without characters.
def lexemes (script : String) : List Lexeme :=
  let s := script.toList.takeWhile (·.toNat ≠ 0)
  let (found, trail) := scan (s.length + 1) [] s
  found ++ [⟨trail, [], .symbol ";"⟩]

def tokens (s : String) : List Token := (lexemes s).map (·.token)

end TableForge.Script
