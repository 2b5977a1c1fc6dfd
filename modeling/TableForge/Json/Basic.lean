import TableForge.Text.Utf8

namespace TableForge

namespace Json

-- How the characters of a text are kept.
inductive Spelling where
  -- as they are, without any that would have to be escaped
  | plain
  -- with the escapes of JSON
  | escaped
  -- with those of JSON5, or with control characters
  | loose
  -- as they are
  | raw
  deriving DecidableEq, Repr

structure Spelled where
  spelling : Spelling
  bytes : List UInt8
  deriving DecidableEq, Repr

end Json

-- A JSON value. Numbers and texts are kept as they are written; a loose number is one that only
-- JSON5 has.
inductive Json where
  | null
  | bool (b : Bool)
  | int (loose : Bool) (digits : List UInt8)
  | real (loose : Bool) (digits : List UInt8)
  | text (s : Json.Spelled)
  | array (items : List Json)
  -- an object has as many labels as values
  | object (labels : List Json.Spelled) (values : List Json)
  deriving Repr

namespace Json

def ofAscii (s : String) : List UInt8 := s.toList.map fun c => UInt8.ofNat c.toNat

def isDigit (b : UInt8) : Bool := 0x30 ≤ b && b ≤ 0x39

def isLetter (b : UInt8) : Bool := (0x41 ≤ b && b ≤ 0x5A) || (0x61 ≤ b && b ≤ 0x7A)

def isHexDigit (b : UInt8) : Bool :=
  isDigit b || (0x41 ≤ b && b ≤ 0x46) || (0x61 ≤ b && b ≤ 0x66)

def hexValue (b : UInt8) : Nat :=
  if isDigit b then b.toNat - 0x30 else (b ||| 0x20).toNat - 0x57

def hexNumber (s : List UInt8) : Nat := s.foldl (fun n b => n * 16 + hexValue b) 0

def hexDigit (n : Nat) : UInt8 := UInt8.ofNat (if n < 10 then 0x30 + n else 0x57 + n)

-- The bytes of a number of a character, which may be that of half of one.
def encodeNumber (n : Nat) : List UInt8 :=
  let low (n : Nat) : UInt8 := UInt8.ofNat (0x80 + n % 64)
  if n < 0x80 then [UInt8.ofNat n]
  else if n < 0x800 then [UInt8.ofNat (0xC0 + n / 64), low n]
  else if n < 0x10000 then [UInt8.ofNat (0xE0 + n / 4096), low (n / 64), low n]
  else [UInt8.ofNat (0xF0 + n / 262144), low (n / 4096), low (n / 64), low n]

def continued? : List UInt8 → Option (List UInt8)
  | 0x0D :: 0x0A :: rest | 0x0D :: rest | 0x0A :: rest => some rest
  | 0xE2 :: 0x80 :: b :: rest => if b = 0xA8 || b = 0xA9 then some rest else none
  | _ => none

def unescape : List UInt8 → List UInt8 × List UInt8
  | 0x75 :: a :: b :: c :: d :: rest =>
    let n := hexNumber [a, b, c, d]
    let single := (encodeNumber n, rest)
    if 0xD800 ≤ n && n < 0xDC00 then
      match rest with
      | 0x5C :: 0x75 :: a :: b :: c :: d :: more =>
        let m := hexNumber [a, b, c, d]
        if 0xDC00 ≤ m && m < 0xE000 then
          (encodeNumber ((n - 0xD800) * 1024 + (m - 0xDC00) + 0x10000), more)
        else single
      | _ => single
    else single
  | 0x62 :: rest => ([8], rest)
  | 0x66 :: rest => ([0xC], rest)
  | 0x6E :: rest => ([0xA], rest)
  | 0x72 :: rest => ([0xD], rest)
  | 0x74 :: rest => ([9], rest)
  | 0x76 :: rest => ([0xB], rest)
  | 0x30 :: rest => ([0], rest)
  | 0x78 :: a :: b :: rest => (encodeNumber (hexNumber [a, b]), rest)
  | s =>
    match continued? s with
    | some rest => ([], rest)
    | none => (s.take 1, s.tail)

-- A text with its escapes replaced. Each byte takes a unit of fuel.
def unescapeAll : Nat → List UInt8 → List UInt8
  | 0, _ | _, [] => []
  | fuel + 1, b :: rest =>
    if b = 0x5C then
      let (bytes, rest) := unescape rest
      bytes ++ unescapeAll fuel rest
    else b :: unescapeAll fuel rest

def Spelled.content (s : Spelled) : List UInt8 :=
  match s.spelling with
  | .plain | .raw => s.bytes
  | .escaped | .loose => unescapeAll s.bytes.length s.bytes

def kind : Json → String
  | .null => "null"
  | .bool b => if b then "true" else "false"
  | .int .. => "integer"
  | .real .. => "real"
  | .text _ => "text"
  | .array _ => "array"
  | .object .. => "object"

end Json

end TableForge
