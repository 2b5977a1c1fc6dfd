import TableForge.Json.Basic

-- Writing JSON. What only JSON5 has is written as JSON.
namespace TableForge.Json

def controlEscape (b : UInt8) : List UInt8 :=
  match b with
  | 8 => ofAscii "\\b"
  | 9 => ofAscii "\\t"
  | 0xA => ofAscii "\\n"
  | 0xC => ofAscii "\\f"
  | 0xD => ofAscii "\\r"
  | b => ofAscii "\\u00" ++ [hexDigit (b.toNat / 16), hexDigit (b.toNat % 16)]

def escapeByte (b : UInt8) : List UInt8 :=
  if b = 0x22 || b = 0x5C then [0x5C, b] else if b < 0x20 then controlEscape b else [b]

def quoteRaw (s : List UInt8) : List UInt8 := 0x22 :: s.flatMap escapeByte ++ [0x22]

def strictEscape (s : List UInt8) : List UInt8 × List UInt8 :=
  match s with
  | 0x27 :: rest => ([0x27], rest)
  | 0x76 :: rest => (ofAscii "\\u000b", rest)
  | 0x78 :: a :: b :: rest => (ofAscii "\\u00" ++ [a, b], rest)
  | 0x30 :: rest => (ofAscii "\\u0000", rest)
  | s =>
    match continued? s with
    | some rest => ([], rest)
    | none => (0x5C :: s.take 1, s.tail)

-- A loosely spelled text as JSON has it. Each byte takes a unit of fuel.
def strictText : Nat → List UInt8 → List UInt8
  | 0, _ | _, [] => []
  | fuel + 1, b :: rest =>
    if b = 0x5C then
      let (bytes, rest) := strictEscape rest
      bytes ++ strictText fuel rest
    else escapeByte b ++ strictText fuel rest

def Spelled.text (s : Spelled) : List UInt8 :=
  match s.spelling with
  | .plain | .escaped => 0x22 :: s.bytes ++ [0x22]
  | .loose => 0x22 :: strictText s.bytes.length s.bytes ++ [0x22]
  | .raw => quoteRaw s.bytes

-- A loose integer in decimal digits; one that is too large is infinite.
def strictInt (digits : List UInt8) : List UInt8 :=
  let sign := if digits.head? = some 0x2D then [0x2D] else []
  let n := hexNumber (digits.drop (sign.length + 2))
  sign ++ if n < 0x10000000000000000 then ofAscii (toString n) else ofAscii "9.0e999"

-- Digits with a zero behind a point that no digit follows.
def closePoints : List UInt8 → List UInt8
  | [] => []
  | b :: rest =>
    if b = 0x2E && !rest.head?.any isDigit then b :: 0x30 :: closePoints rest
    else b :: closePoints rest

def strictReal (digits : List UInt8) : List UInt8 :=
  let sign := if digits.head? = some 0x2D then [0x2D] else []
  let size := digits.drop sign.length
  sign ++ closePoints (if size.head? = some 0x2E then 0x30 :: size else size)

def leafText : Json → List UInt8
  | .null => ofAscii "null"
  | .bool b => ofAscii (if b then "true" else "false")
  | .int loose digits => if loose then strictInt digits else digits
  | .real loose digits => if loose then strictReal digits else digits
  | .text s => s.text
  | .array _ => ofAscii "[]"
  | .object .. => ofAscii "\x7b\x7d"

def separated (separator : List UInt8) (l : List (List UInt8)) : List UInt8 :=
  (l.intersperse separator).flatten

def labelled (mark : List UInt8) (labels : List Spelled) (values : List (List UInt8)) :
    List (List UInt8) :=
  (labels.zip values).map fun (label, value) => label.text ++ mark ++ value

mutual

def render : Json → List UInt8
  | .array items => 0x5B :: separated [0x2C] (renderAll items) ++ [0x5D]
  | .object labels values =>
    0x7B :: separated [0x2C] (labelled [0x3A] labels (renderAll values)) ++ [0x7D]
  | j => leafText j

def renderAll : List Json → List (List UInt8)
  | [] => []
  | j :: rest => render j :: renderAll rest

end

def lineBreak (indent : List UInt8) (depth : Nat) : List UInt8 :=
  0x0A :: (List.replicate depth indent).flatten

mutual

-- The text of a value with a line for each of its parts, which stand `depth` indents deep.
def renderPretty (indent : List UInt8) : Nat → Json → List UInt8
  | depth, .array (j :: rest) =>
    let lines := renderAllPretty indent (depth + 1) (j :: rest)
    let before := lineBreak indent (depth + 1)
    0x5B :: before ++ separated (0x2C :: before) lines ++ lineBreak indent depth ++ [0x5D]
  | depth, .object (label :: labels) values =>
    let lines := renderAllPretty indent (depth + 1) values
    let before := lineBreak indent (depth + 1)
    0x7B :: before ++
      separated (0x2C :: before) (labelled [0x3A, 0x20] (label :: labels) lines) ++
      lineBreak indent depth ++ [0x7D]
  | _, j => leafText j

def renderAllPretty (indent : List UInt8) : Nat → List Json → List (List UInt8)
  | _, [] => []
  | depth, j :: rest => renderPretty indent depth j :: renderAllPretty indent depth rest

end

end TableForge.Json
