namespace TableForge.Toml

-- Characters that may stand for themselves in a comment or between quotes.
def isTextChar (c : Char) : Bool := c = '\t' || (0x20 ≤ c.toNat && c.toNat ≠ 0x7F)

def escape? : Char → Option Char
  | 'b' => some '\x08'
  | 't' => some '\t'
  | 'n' => some '\n'
  | 'f' => some '\x0c'
  | 'r' => some '\r'
  | '"' => some '"'
  | '\\' => some '\\'
  | _ => none

def hexDigit? (c : Char) : Option Nat :=
  if c.isDigit then some (c.toNat - '0'.toNat)
  else if 'a' ≤ c && c ≤ 'f' then some (c.toNat - 'a'.toNat + 10)
  else if 'A' ≤ c && c ≤ 'F' then some (c.toNat - 'A'.toNat + 10)
  else none

def coded? (digits : List Char) : Option Char := do
  let code ← digits.foldlM (fun n c => (n * 16 + ·) <$> hexDigit? c) 0
  if code.isValidChar then some (Char.ofNat code) else none

def push (c : Char) : Option (List Char × List Char) → Option (List Char × List Char) :=
  Option.map fun (content, after) => (c :: content, after)

def startsLine : List Char → Bool
  | '\n' :: _ => true
  | '\r' :: '\n' :: _ => true
  | _ => false

-- Each reader below gets the text after the opening quotes and gives the content and the text
-- after the closing ones.

def readLiteral : List Char → Option (List Char × List Char)
  | [] => none
  | c :: rest =>
    if c = '\'' then some ([], rest)
    else if isTextChar c then push c (readLiteral rest)
    else none

def readBasic : List Char → Option (List Char × List Char)
  | [] => none
  | '\\' :: 'u' :: a :: b :: c :: d :: rest => do push (← coded? [a, b, c, d]) (readBasic rest)
  | '\\' :: 'U' :: a :: b :: c :: d :: e :: f :: g :: h :: rest => do
    push (← coded? [a, b, c, d, e, f, g, h]) (readBasic rest)
  | '\\' :: c :: rest => do push (← escape? c) (readBasic rest)
  | c :: rest =>
    if c = '"' then some ([], rest)
    else if isTextChar c then push c (readBasic rest)
    else none

-- Up to two quotes may stand right before the closing three. A line break is a line feed,
-- however it is spelt.
def readLiteralLines : List Char → Option (List Char × List Char)
  | [] => none
  | '\'' :: '\'' :: '\'' :: '\'' :: '\'' :: rest => some (['\'', '\''], rest)
  | '\'' :: '\'' :: '\'' :: '\'' :: rest => some (['\''], rest)
  | '\'' :: '\'' :: '\'' :: rest => some ([], rest)
  | '\r' :: '\n' :: rest => push '\n' (readLiteralLines rest)
  | c :: rest =>
    if c = '\n' || isTextChar c then push c (readLiteralLines rest) else none

-- A backslash at the end of a line takes the line break and all blanks and line breaks that
-- follow; `skipping` tells that such a run is being passed.
def readBasicLines : Bool → List Char → Option (List Char × List Char)
  | _, [] => none
  | true, ' ' :: rest => readBasicLines true rest
  | true, '\t' :: rest => readBasicLines true rest
  | true, '\n' :: rest => readBasicLines true rest
  | true, '\r' :: '\n' :: rest => readBasicLines true rest
  | _, '"' :: '"' :: '"' :: '"' :: '"' :: rest => some (['"', '"'], rest)
  | _, '"' :: '"' :: '"' :: '"' :: rest => some (['"'], rest)
  | _, '"' :: '"' :: '"' :: rest => some ([], rest)
  | _, '\r' :: '\n' :: rest => push '\n' (readBasicLines false rest)
  | _, '\\' :: 'u' :: a :: b :: c :: d :: rest => do
    push (← coded? [a, b, c, d]) (readBasicLines false rest)
  | _, '\\' :: 'U' :: a :: b :: c :: d :: e :: f :: g :: h :: rest => do
    push (← coded? [a, b, c, d, e, f, g, h]) (readBasicLines false rest)
  | _, '\\' :: c :: rest =>
    if startsLine ((c :: rest).dropWhile fun b => b = ' ' || b = '\t') then
      readBasicLines true (c :: rest)
    else do push (← escape? c) (readBasicLines false rest)
  | _, c :: rest =>
    if c = '\n' || isTextChar c then push c (readBasicLines false rest) else none

-- A line break right after opening quotes does not count.
def dropLineBreak : List Char → List Char
  | '\n' :: rest => rest
  | '\r' :: '\n' :: rest => rest
  | s => s

def readString? : List Char → Option (List Char × List Char)
  | '"' :: rest => readBasic rest
  | '\'' :: rest => readLiteral rest
  | _ => none

def readAnyString? : List Char → Option (List Char × List Char)
  | '"' :: '"' :: '"' :: rest => readBasicLines false (dropLineBreak rest)
  | '\'' :: '\'' :: '\'' :: rest => readLiteralLines (dropLineBreak rest)
  | s => readString? s

end TableForge.Toml
