import TableForge.Function.Basic
import TableForge.Text.Pattern

-- Functions of texts and blobs. They work on bytes, since a text need not spell characters, and
-- where a text is read character by character it ends at its first zero.
namespace TableForge.Function

open Text (Utf8.characters Utf8.numberOf Utf8.numbers Utf8.untilZero Utf8.isContinuation)

def isText : Datum → Bool
  | .text _ => true
  | _ => false

def isBlob : Datum → Bool
  | .blob _ => true
  | _ => false

def charactersOf (s : List UInt8) : List (List UInt8) := Utf8.characters (Utf8.untilZero s)

-- A function of the bytes of a text; a null stays a null.
def onBytes (f : List UInt8 → Datum) (d : Datum) : Datum := (d.bytes?).elim .null f

def length (d : Datum) : Datum :=
  onBytes (fun s => .int (if isText d then (charactersOf s).length else s.length)) d

def upperByte (b : UInt8) : UInt8 := if 0x61 ≤ b && b ≤ 0x7A then b - 32 else b

-- The steps in which a search passes a text: a byte with all bytes behind it that continue a
-- character.
def steps (s : List UInt8) : List Nat :=
  let (pending, found) := s.foldr (fun b (pending, found) =>
    if Utf8.isContinuation b then (pending + 1, found) else (0, (pending + 1) :: found)) (0, [])
  if pending = 0 then found else pending :: found

-- Where a part begins in a text: one more than the number of steps in front of it, or zero.
def positionOf (part : List UInt8) : Nat → List UInt8 → List Nat → Nat
  | n, s, steps =>
    if part.isPrefixOf s then n
    else
      match steps with
      | [] => 0
      | step :: rest => positionOf part (n + 1) (s.drop step) rest

-- Where the second value begins in the first one; blobs are counted in bytes.
def position : List Datum → Datum
  | [d, part] =>
    match d.bytes?, part.bytes? with
    | some s, some p => .int (positionOf p 1 s (if isBlob d && isBlob part then s.map fun _ => 1
        else steps s))
    | _, _ => .null
  | _ => .null

def firstNumber (s : List UInt8) : Datum :=
  match Utf8.numbers s with
  | [] => .null
  | n :: _ => .int (Int.bmod n 0x100000000)

-- The bytes of a character with a number; numbers that are no characters are replaced.
def characterOf (i : Int) : List UInt8 :=
  let n := if i < 0 || 0x10FFFF < i then 0xFFFD else i.toNat
  let low (shift : Nat) : UInt8 := UInt8.ofNat (0x80 + n / twoTo shift % 64)
  if n < 0x80 then [UInt8.ofNat n]
  else if n < 0x800 then [UInt8.ofNat (0xC0 + n / 64), low 0]
  else if n < 0x10000 then [UInt8.ofNat (0xE0 + n / twoTo 12), low 6, low 0]
  else [UInt8.ofNat (0xF0 + n / twoTo 18), low 12, low 6, low 0]

def intOf (d : Datum) : Int := (d.toInt?).getD 0

def textOfNumbers (ds : List Datum) : Datum := .text (ds.flatMap fun d => characterOf (intOf d))

def hexDigit (n : Nat) : UInt8 := UInt8.ofNat (if n < 10 then 0x30 + n else 0x37 + n)

def hexDigits (s : List UInt8) : List UInt8 :=
  s.flatMap fun b => [hexDigit (b.toNat / 16), hexDigit (b.toNat % 16)]

def hexValueOf? : List UInt8 → Option Nat
  | [b] =>
    if 0x30 ≤ b && b ≤ 0x39 then some (b.toNat - 0x30)
    else if 0x41 ≤ b && b ≤ 0x46 then some (b.toNat - 0x37)
    else if 0x61 ≤ b && b ≤ 0x66 then some (b.toNat - 0x57)
    else none
  | _ => none

-- The bytes that pairs of digits spell. Between the pairs there may be characters with one of
-- the given numbers.
def unhexed (ignored : List Nat) : List (List UInt8) → Option (List UInt8)
  | [] => some []
  | c :: rest =>
    match hexValueOf? c with
    | none => if ignored.contains (Utf8.numberOf c) then unhexed ignored rest else none
    | some x =>
      match rest with
      | [] => none
      | d :: rest => do
        let y ← hexValueOf? d
        return UInt8.ofNat (x * 16 + y) :: (← unhexed ignored rest)

def unhex : List Datum → Datum
  | d :: more =>
    let ignored := match more with
      | [] => some []
      | e :: _ => (e.bytes?).map fun s => (Utf8.characters s).map Utf8.numberOf
    match d.bytes?, ignored with
    | some s, some ignored => (unhexed ignored (charactersOf s)).elim .null .blob
    | _, _ => .null
  | [] => .null

def joined (separator : List UInt8) (ds : List Datum) : Datum :=
  .text ((ds.filterMap Datum.bytes?).intersperse separator).flatten

-- The text with every occurrence of a part replaced, from the left. Each byte of the text takes
-- a unit of fuel.
def replaceAll (part new : List UInt8) : Nat → List UInt8 → List UInt8
  | 0, s => s
  | _ + 1, [] => []
  | fuel + 1, b :: rest =>
    if part.isPrefixOf (b :: rest) then
      new ++ replaceAll part new fuel ((b :: rest).drop part.length)
    else b :: replaceAll part new fuel rest

def replace? : List Datum → Option Datum
  | [d, part, new] =>
    match d.bytes?, part.bytes? with
    | some s, some p =>
      if p.isEmpty || p.head? = some 0 then some (.text s)
      else
        match new.bytes? with
        | none => some .null
        | some new =>
          let out := replaceAll p new (s.length + 1) s
          if out.length ≤ greatestLength then some (.text out) else none
    | _, _ => some .null
  | _ => none

-- The first and the last unit of a part of a text, counted from one or from the end of the text,
-- where a negative count stands for the units in front of the first one.
def partBounds (size start count : Int) : Nat × Nat :=
  let (first, count) :=
    if start < 0 then
      let first := start + size
      if first < 0 then (0, if count < 0 then 0 else max (count + first) 0) else (first, count)
    else if 0 < start then (start - 1, count)
    else (0, if 0 < count then count - 1 else count)
  if count < 0 then ((max (first + count) 0).toNat, (min first (-count)).toNat)
  else (first.toNat, count.toNat)

def part (d start : Datum) (count : Option Datum) : Datum :=
  if start.isNull || count.any Datum.isNull then .null
  else
    let size : Int := (count.map intOf).getD greatestLength
    match d with
    | .blob [] => .null
    | .blob s =>
      let (first, size) := partBounds s.length (intOf start) size
      .blob ((s.drop first).take size)
    | d => onBytes (fun s =>
        let units := charactersOf s
        let (first, size) := partBounds units.length (intOf start) size
        .text ((units.drop first).take size).flatten) d

def substring : List Datum → Datum
  | [d, start] => part d start none
  | [d, start, count] => part d start (some count)
  | _ => .null

-- The text without any of the given beginnings, as long as there is one. Each takes a unit of
-- fuel.
def dropAny (starts : List (List UInt8)) : Nat → List UInt8 → List UInt8
  | 0, s => s
  | fuel + 1, s =>
    match starts.find? (·.isPrefixOf s) with
    | none => s
    | some start => if s.isEmpty then s else dropAny starts fuel (s.drop start.length)

def trimmed (atStart atEnd : Bool) : List Datum → Datum
  | d :: more =>
    let dropped := match more with
      | [] => some [[0x20]]
      | e :: _ => (e.bytes?).map charactersOf
    match d.bytes?, dropped with
    | some s, some dropped =>
      let s := if atStart then dropAny dropped s.length s else s
      let ends := dropped.map List.reverse
      .text (if atEnd then (dropAny ends s.length s.reverse).reverse else s)
    | _, _ => .null
  | [] => .null

-- What a letter sounds like, by its place in the alphabet; vowels have no sound.
def soundDigits : List Nat :=
  [0, 1, 2, 3, 0, 1, 2, 0, 0, 2, 2, 4, 5, 5, 0, 1, 2, 6, 2, 3, 0, 1, 0, 2, 0, 2]

def isLetter (b : UInt8) : Bool := 0x41 ≤ upperByte b && upperByte b ≤ 0x5A

def soundOf (b : UInt8) : Nat :=
  let b := upperByte (b &&& 0x7F)
  if isLetter b then soundDigits.getD (b.toNat - 0x41) 0 else 0

def sounds : Nat → List UInt8 → List UInt8
  | _, [] => []
  | before, b :: rest =>
    let code := soundOf b
    if code = 0 then sounds 0 rest
    else if code = before then sounds before rest
    else UInt8.ofNat (0x30 + code) :: sounds code rest

def soundex (d : Datum) : Datum :=
  match (Utf8.untilZero ((d.bytes?).getD [])).dropWhile (!isLetter ·) with
  | [] => .ofText "?000"
  | b :: rest =>
    let digits := (sounds (soundOf b) rest).take 3
    .text (upperByte b :: digits ++ List.replicate (3 - digits.length) 0x30)

def zeros? (d : Datum) : Option Datum :=
  let size := (intOf d).toNat
  if size ≤ greatestLength then some (.blob (List.replicate size 0)) else none

-- Patterns longer than this are refused.
def greatestPattern : Nat := 50000

-- Whether the second value fits the pattern that the first one is; null if one of them is.
def patternTest? (parts : List Nat → List Text.PatternPart) (pattern d : Datum) : Option Datum :=
  match pattern.bytes? with
  | none => some .null
  | some p =>
    if greatestPattern < p.length then none
    else some (onBytes (fun s => .ofBool (Text.fits (parts (Utf8.numbers p)) (Utf8.numbers s))) d)

def like? : List Datum → Option Datum
  | [pattern, d] => patternTest? (Text.likeParts none) pattern d
  | [pattern, d, escape] =>
    if ((pattern.bytes?).getD []).length > greatestPattern then none
    else
      match escape.bytes? with
      | none => some .null
      | some e =>
        match Utf8.numbers e with
        | [c] => patternTest? (Text.likeParts (some c)) pattern d
        | _ => none
  | _ => none

def glob? : List Datum → Option Datum
  | [pattern, d] => patternTest? (fun p => Text.globParts p.length p) pattern d
  | _ => none

def typeName : Datum → String
  | .null => "null"
  | .int _ => "integer"
  | .real _ => "real"
  | .text _ => "text"
  | .blob _ => "blob"

def single (f : Datum → Datum) : List Datum → Datum
  | d :: _ => f d
  | [] => .null

def ofTexts : List Function := [
  ofData "length" 1 1 (single length),
  ofData "octet_length" 1 1 (single (onBytes fun s => .int s.length)),
  ofData "instr" 2 2 position,
  ofData "unicode" 1 1 (single (onBytes firstNumber)),
  ofData? "char" 0 none fun ds => some (textOfNumbers ds),
  ofData "upper" 1 1 (single (onBytes fun s => .text (s.map upperByte))),
  ofData "lower" 1 1 (single (onBytes fun s => .text (s.map Collation.foldByte))),
  ofData "hex" 1 1 (single fun d => .text (hexDigits ((d.bytes?).getD []))),
  ofData "unhex" 1 2 unhex,
  ofData? "concat" 1 none fun ds => some (joined [] ds),
  ofData? "concat_ws" 2 none fun ds => some
    (match ds with
    | separator :: ds => onBytes (fun s => joined s ds) separator
    | [] => .null),
  ofData? "replace" 3 (some 3) replace?,
  ofData "substr" 2 3 substring,
  ofData "substring" 2 3 substring,
  ofData "trim" 1 2 (trimmed true true),
  ofData "ltrim" 1 2 (trimmed true false),
  ofData "rtrim" 1 2 (trimmed false true),
  ofData "soundex" 1 1 (single soundex),
  ofData? "zeroblob" 1 (some 1) fun ds => zeros? (ds.headD .null),
  ofData? "like" 2 (some 3) like?,
  ofData? "glob" 2 (some 2) glob?,
  ofData "typeof" 1 1 (single fun d => .ofText (typeName d))]

end TableForge.Function
