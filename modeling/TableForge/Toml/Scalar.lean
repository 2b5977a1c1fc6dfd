import TableForge.Decimal.Binary64

namespace TableForge.Toml

-- Digits in groups: single underscores may stand between two digits.
def isGrouped (isDigit : Char → Bool) : List Char → Bool
  | [] => false
  | [c] => isDigit c
  | c :: '_' :: rest => isDigit c && isGrouped isDigit rest
  | c :: rest => isDigit c && isGrouped isDigit rest

-- The number that decimal digits spell; other characters are passed over.
def decimalValue (s : List Char) : Nat :=
  (s.filter Char.isDigit).foldl (fun n c => n * 10 + (c.toNat - '0'.toNat)) 0

def valueIn (base : Nat) (s : List Char) : Nat :=
  (s.filter (· ≠ '_')).foldl
    (fun n c => n * base +
      if c.isDigit then c.toNat - '0'.toNat else c.toLower.toNat - 'a'.toNat + 10) 0

def isHexDigit (c : Char) : Bool := c.isDigit || ('a' ≤ c.toLower && c.toLower ≤ 'f')

def dropSign : List Char → List Char
  | '+' :: rest => rest
  | '-' :: rest => rest
  | s => s

def isWhole (s : List Char) : Bool :=
  isGrouped Char.isDigit s && (s.length = 1 || s.head? ≠ some '0')

def intLimit : Nat := 0x8000000000000000

def isInteger : List Char → Bool
  | '0' :: 'x' :: digits => isGrouped isHexDigit digits && valueIn 16 digits < intLimit
  | '0' :: 'o' :: digits =>
    isGrouped (fun c => '0' ≤ c && c ≤ '7') digits && valueIn 8 digits < intLimit
  | '0' :: 'b' :: digits =>
    isGrouped (fun c => c = '0' || c = '1') digits && valueIn 2 digits < intLimit
  | s =>
    isWhole (dropSign s) &&
      decimalValue s < intLimit + if s.head? = some '-' then 1 else 0

structure FloatParts where
  whole : List Char
  -- the point and the digits behind it, if there are any
  fraction : List Char
  -- the mark of the exponent and what stands behind it, if there is any
  power : List Char

def floatParts (body : List Char) : FloatParts :=
  let isMark (c : Char) := c = 'e' || c = 'E'
  let mantissa := body.takeWhile (!isMark ·)
  { whole := mantissa.takeWhile (· ≠ '.')
    fraction := mantissa.dropWhile (· ≠ '.')
    power := body.dropWhile (!isMark ·) }

def FloatParts.isSound (p : FloatParts) : Bool :=
  isWhole p.whole && !(p.fraction.isEmpty && p.power.isEmpty) &&
    (p.fraction.isEmpty || isGrouped Char.isDigit p.fraction.tail) &&
    (p.power.isEmpty || isGrouped Char.isDigit (dropSign p.power.tail))

def FloatParts.size (p : FloatParts) : Binary64 :=
  let shift : Int := decimalValue p.power
  let shift := if p.power.tail.head? = some '-' then -shift else shift
  .ofDecimal false (decimalValue (p.whole ++ p.fraction))
    (shift - (p.fraction.filter Char.isDigit).length)

-- A number with a fraction, an exponent or both, or one of the special values. A number must not
-- be too large for a double unless it is negative.
def isFloat (s : List Char) : Bool :=
  let body := dropSign s
  body == "inf".toList || body == "nan".toList ||
    ((floatParts body).isSound && (s.head? = some '-' || (floatParts body).size.isFinite))

-- The text has digits where the pattern has `0` and is the same as the pattern elsewhere.
def fits (pattern : String) (s : List Char) : Bool :=
  s.length = pattern.length && (pattern.toList.zip s).all fun (p, c) =>
    if p = '0' then c.isDigit else p = c

def numberAt (start length : Nat) (s : List Char) : Nat :=
  decimalValue ((s.drop start).take length)

def daysIn (year month : Nat) : Nat :=
  if month = 2 then
    if year % 4 = 0 && (year % 100 ≠ 0 || year % 400 = 0) then 29 else 28
  else if month ∈ [4, 6, 9, 11] then 30
  else 31

def isDate (s : List Char) : Bool :=
  let month := numberAt 5 2 s
  let day := numberAt 8 2 s
  fits "0000-00-00" s && 1 ≤ month && month ≤ 12 && 1 ≤ day &&
    day ≤ daysIn (numberAt 0 4 s) month

def isTime (s : List Char) : Bool :=
  fits "00:00:00" (s.take 8) && numberAt 0 2 s < 24 && numberAt 3 2 s < 60 &&
    numberAt 6 2 s ≤ 60 &&
    match s.drop 8 with
    | [] => true
    | '.' :: digits => !digits.isEmpty && digits.all Char.isDigit
    | _ => false

def isOffset (s : List Char) : Bool :=
  s == ['Z'] || s == ['z'] ||
    ((fits "+00:00" s || fits "-00:00" s) && numberAt 1 2 s < 24 && numberAt 4 2 s < 60)

def isMoment (s : List Char) : Bool :=
  let afterDate := (s.drop 10).tail
  let isTimeChar (c : Char) := c.isDigit || c = ':' || c = '.'
  isDate s || isTime s ||
    (isDate (s.take 10) && (s.drop 10).head?.any (· ∈ ['T', 't', ' ']) &&
      isTime (afterDate.takeWhile isTimeChar) &&
      (afterDate.all isTimeChar || isOffset (afterDate.dropWhile isTimeChar)))

def isScalar (s : List Char) : Bool :=
  s == "true".toList || s == "false".toList || isInteger s || isFloat s || isMoment s

def isScalarChar (c : Char) : Bool :=
  c.isAlphanum || c = '+' || c = '-' || c = '_' || c = '.' || c = ':'

-- The scalar at the beginning of a text and the text after it. Between a date and a time of day
-- a blank may stand.
def readScalar? (s : List Char) : Option (List Char × List Char) :=
  let token := s.takeWhile isScalarChar
  let rest := s.dropWhile isScalarChar
  let (token, rest) :=
    match rest with
    | ' ' :: next =>
      if isDate token && next.head?.any Char.isDigit then
        (token ++ ' ' :: next.takeWhile isScalarChar, next.dropWhile isScalarChar)
      else (token, rest)
    | _ => (token, rest)
  if isScalar token then some (token, rest) else none

end TableForge.Toml
