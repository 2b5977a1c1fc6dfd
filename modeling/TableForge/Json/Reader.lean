import TableForge.Json.Basic

-- Reading JSON. Everything that JSON5 allows is read; whether it was needed is told apart.
namespace TableForge.Json

def isSpace (b : UInt8) : Bool := b = 0x20 || b = 9 || b = 0xA || b = 0xD

def dropComment : List UInt8 → Option (List UInt8)
  | [] => none
  | 0x2A :: 0x2F :: rest => some rest
  | _ :: rest => dropComment rest

def dropLine : List UInt8 → List UInt8
  | [] => []
  | 0xE2 :: 0x80 :: b :: rest =>
    if b = 0xA8 || b = 0xA9 then rest else dropLine (0x80 :: b :: rest)
  | b :: rest => if b = 0xA || b = 0xD then rest else dropLine rest

def dropLoose? (s : List UInt8) : Option (List UInt8) :=
  match s with
  | 0x2F :: 0x2A :: b :: rest => dropComment (b :: rest)
  | 0x2F :: 0x2F :: rest => some (dropLine rest)
  | 0xC2 :: 0xA0 :: rest => some rest
  | 0xE1 :: 0x9A :: 0x80 :: rest => some rest
  | 0xE2 :: 0x80 :: b :: rest =>
    if (0x80 ≤ b && b ≤ 0x8A) || b = 0xA8 || b = 0xA9 || b = 0xAF then some rest else none
  | 0xE2 :: 0x81 :: 0x9F :: rest => some rest
  | 0xE3 :: 0x80 :: 0x80 :: rest => some rest
  | 0xEF :: 0xBB :: 0xBF :: rest => some rest
  | b :: rest => if isSpace b || b = 0xB || b = 0xC then some rest else none
  | [] => none

-- The text without the white space of JSON5 at its beginning. Each piece takes a unit of fuel.
def skipLoose : Nat → List UInt8 → List UInt8
  | 0, s => s
  | fuel + 1, s =>
    match dropLoose? s with
    | some rest => skipLoose fuel rest
    | none => s

-- What is at the beginning of a text: a value with what stands behind it, a mark that is no
-- value, nothing, or an error. `strict` tells that JSON5 was not needed.
inductive Found where
  | value (j : Json) (strict : Bool) (rest : List UInt8)
  | mark (c : UInt8) (strict : Bool) (rest : List UInt8)
  | nothing
  | failed (rest : List UInt8)

def startsWith (word : String) (s : List UInt8) : Bool :=
  let letters := ofAscii word
  (s.take letters.length).map (· ||| 0x20) == letters

def isWordPart (b : UInt8) : Bool := isDigit b || isLetter b

-- The escape behind a backslash: how it is spelled and what follows it.
def escapeOf (s : List UInt8) : Option (Spelling × List UInt8) :=
  match s with
  | 0x75 :: rest =>
    if (rest.take 4).length = 4 && (rest.take 4).all isHexDigit then some (.escaped, rest.drop 4)
    else none
  | 0x78 :: rest =>
    if (rest.take 2).length = 2 && (rest.take 2).all isHexDigit then some (.loose, rest.drop 2)
    else none
  | b :: rest =>
    if (ofAscii "\"\\/bfnrt").contains b then some (.escaped, rest)
    else if (ofAscii "'v0").contains b then some (.loose, rest)
    else (continued? (b :: rest)).map (.loose, ·)
  | [] => none

def looser : Spelling → Spelling → Spelling
  | .loose, _ | _, .loose => .loose
  | .escaped, _ | _, .escaped => .escaped
  | s, _ => s

-- A text up to the quote that ends it: its bytes, its spelling, whether it is strict, and what
-- follows it. Each byte takes a unit of fuel.
def readText (quote : UInt8) :
    Nat → List UInt8 → Except (List UInt8) (List UInt8 × Spelling × Bool × List UInt8)
  | 0, s => .error s
  | _ + 1, [] => .error []
  | fuel + 1, b :: rest =>
    if b = quote then .ok ([], .plain, true, rest)
    else if b = 0x5C then
      match escapeOf rest with
      | none => .error rest
      | some (spelling, more) => do
        let (bytes, others, strict, after) ← readText quote fuel more
        return ((b :: rest).take (rest.length + 1 - more.length) ++ bytes, looser spelling others,
          strict && spelling = .escaped, after)
    else do
      let (bytes, spelling, strict, after) ← readText quote fuel rest
      let isControl := b < 0x20
      let isLoose := isControl || b = 0x22
      return (b :: bytes, if isLoose then .loose else spelling, strict && !isControl, after)

-- The digits of a number, its point and its exponent behind the first character. The state
-- tells whether there has been a point or an exponent, and whether it is loose; `before` holds
-- the two characters passed last, the last one first.
def readDigits (point exponent loose : Bool) (before : List UInt8) :
    Nat → List UInt8 → Except (List UInt8) (Bool × Bool × List UInt8)
  | 0, s => .error s
  | fuel + 1, s =>
    let endsAtPoint := before.head?.any (· < 0x30)
    let isLoose := endsAtPoint && before.head? = some 0x2E && before[1]?.any isDigit
    match s with
    | 0x2E :: rest =>
      if point then .error s
      else readDigits true exponent loose (0x2E :: before.take 1) fuel rest
    | b :: rest =>
      if isDigit b then readDigits point exponent loose (b :: before.take 1) fuel rest
      else if b = 0x65 || b = 0x45 then
        if (endsAtPoint && !isLoose) || exponent then .error s
        else
          let rest := if rest.head?.any fun c => c = 0x2B || c = 0x2D then rest.tail else rest
          if rest.head?.any isDigit then
            readDigits true true (loose || isLoose) [0x30] fuel rest
          else .error rest
      else if endsAtPoint && !isLoose then .error s
      else .ok (point, loose || isLoose, s)
    | [] => if endsAtPoint && !isLoose then .error s else .ok (point, loose || isLoose, s)

def number (s : List UInt8) (strict loose point : Bool) (rest : List UInt8) : Found :=
  let digits := s.take (s.length - rest.length)
  let digits := if digits.head? = some 0x2B then digits.tail else digits
  .value (if point then .real loose digits else .int loose digits) (strict && !loose) rest

def readPlain (s : List UInt8) (strict loose point : Bool) : Found :=
  match readDigits point false loose (s.take 1) (s.length + 1) s.tail with
  | .error rest => .failed rest
  | .ok (point, loose, rest) => number s strict loose point rest

-- A number at the beginning of a text, with a sign or without. Infinity is a very large one.
def readNumber (s : List UInt8) (strict : Bool) : Found :=
  let signed := s.head?.any fun b => b = 0x2D || b = 0x2B
  let body := if signed then s.tail else s
  let strict := strict && s.head? ≠ some 0x2B
  match body with
  | 0x30 :: x :: d :: rest =>
    if (x = 0x78 || x = 0x58) && isHexDigit d then
      number s false true false (rest.dropWhile isHexDigit)
    else if isDigit x then .failed (x :: d :: rest)
    else readPlain s strict false false
  | [0x30, x] => if isDigit x then .failed [x] else readPlain s strict false false
  | b :: _ =>
    if isDigit b then readPlain s strict false false
    else if startsWith "inf" body then
      let size := if startsWith "infinity" body then 8 else 3
      let sign := if s.head? = some 0x2D then [0x2D] else []
      .value (.real false (sign ++ ofAscii "9e999")) false (body.drop size)
    else if b = 0x2E then readPlain s false true false
    else .failed s
  | [] => .failed s

-- Words for numbers that are none, and the values that they have.
def words : List (String × Json) := [
  ("inf", .real false (ofAscii "9e999")), ("infinity", .real false (ofAscii "9e999")),
  ("nan", .null), ("qnan", .null), ("snan", .null)]

-- A value that is a word of JSON in lower case, or one of the other words in either case.
def readWord (s : List UInt8) (strict : Bool) : Found :=
  let ends (size : Nat) : Bool := !(s.drop size).head?.any isWordPart
  let strictWords : List (String × Json) :=
    [("true", .bool true), ("false", .bool false), ("null", .null)]
  match strictWords.find? fun (word, _) => (ofAscii word).isPrefixOf s && ends word.length with
  | some (word, j) => .value j strict (s.drop word.length)
  | none =>
    match words.find? fun (word, _) => startsWith word s && ends word.length with
    | some (word, j) => .value j false (s.drop word.length)
    | none => .failed s

def isLabelStart (b : UInt8) : Bool := isLetter b || b = 0x5F || b = 0x24 || 0x80 ≤ b

def isLabelPart (b : UInt8) : Bool := isLabelStart b || isDigit b

-- A label without quotes: its bytes, whether it has escapes, and what follows it.
def readLabel : Nat → Bool → List UInt8 → List UInt8 × Bool × List UInt8
  | 0, _, s => ([], false, s)
  | fuel + 1, isFirst, s =>
    match s with
    | 0x5C :: 0x75 :: rest =>
      if (rest.take 4).length = 4 && (rest.take 4).all isHexDigit then
        let (bytes, _, after) := readLabel fuel false (rest.drop 4)
        (s.take 6 ++ bytes, true, after)
      else ([], false, s)
    | b :: rest =>
      if (if isFirst then isLabelStart b else isLabelPart b && (dropLoose? s).isNone) then
        let (bytes, escaped, after) := readLabel fuel false rest
        (b :: bytes, escaped, after)
      else ([], false, s)
    | [] => ([], false, s)

def greatestDepth : Nat := 1000

mutual

-- What is at the beginning of a text, behind white space. Each call takes a unit of fuel.
def find : Nat → Nat → Bool → List UInt8 → Found
  | 0, _, _, s => .failed s
  | fuel + 1, depth, strict, s =>
    match s with
    | [] => .nothing
    | b :: rest =>
      if isSpace b then find fuel depth strict (s.dropWhile isSpace)
      else if b = 0x7B then
        if greatestDepth ≤ depth then .failed s
        else
          match members fuel (depth + 1) true strict rest with
          | .error place => .failed place
          | .ok (labels, values, strict, rest) => .value (.object labels values) strict rest
      else if b = 0x5B then
        if greatestDepth ≤ depth then .failed s
        else
          match items fuel (depth + 1) true strict rest with
          | .error place => .failed place
          | .ok (found, strict, rest) => .value (.array found) strict rest
      else if b = 0x22 || b = 0x27 then
        match readText b (s.length + 1) rest with
        | .error place => .failed place
        | .ok (bytes, spelling, isStrict, rest) =>
          .value (.text ⟨spelling, bytes⟩) (strict && isStrict && b = 0x22) rest
      else if b = 0x2E then
        if rest.head?.any isDigit then readPlain s false true true else .failed s
      else if b = 0x2B || b = 0x2D || isDigit b then readNumber s strict
      else if b = 0x7D || b = 0x5D || b = 0x2C || b = 0x3A then .mark b strict s
      else
        match dropLoose? s with
        | some _ => find fuel depth false (skipLoose s.length s)
        | none => readWord s strict

-- The items of an array behind its bracket, or behind a comma if `isFirst` tells otherwise.
def items : Nat → Nat → Bool → Bool → List UInt8 →
    Except (List UInt8) (List Json × Bool × List UInt8)
  | 0, _, _, _, s => .error s
  | fuel + 1, depth, isFirst, strict, s =>
    match find fuel depth strict s with
    | .value j strict rest =>
      match find fuel depth strict rest with
      | .mark c strict rest =>
        if c = 0x2C then do
          let (more, strict, rest) ← items fuel depth false strict rest.tail
          return (j :: more, strict, rest)
        else if c = 0x5D then .ok ([j], strict, rest.tail)
        else .error rest
      | .failed place => .error place
      | _ => .error rest
    | .mark 0x5D strict rest => .ok ([], strict && isFirst, rest.tail)
    | .failed place => .error place
    | _ => .error s

-- The members of an object behind its brace, or behind a comma if `isFirst` tells otherwise.
def members : Nat → Nat → Bool → Bool → List UInt8 →
    Except (List UInt8) (List Spelled × List Json × Bool × List UInt8)
  | 0, _, _, _, s => .error s
  | fuel + 1, depth, isFirst, strict, s =>
    match find fuel depth strict s with
    | .value (.text label) strict rest => member fuel depth strict label rest
    | .value .. => .error s
    | .mark 0x7D strict rest => .ok ([], [], strict && isFirst, rest.tail)
    | _ =>
      let body := skipLoose s.length s
      match readLabel body.length true body with
      | ([], _, _) => .error body
      | (bytes, escaped, rest) =>
        member fuel depth false ⟨if escaped then .escaped else .plain, bytes⟩ rest

def member : Nat → Nat → Bool → Spelled → List UInt8 →
    Except (List UInt8) (List Spelled × List Json × Bool × List UInt8)
  | 0, _, _, _, s => .error s
  | fuel + 1, depth, strict, label, s =>
    match find fuel depth strict s with
    | .mark 0x3A strict rest =>
      match find fuel depth strict rest.tail with
      | .value j strict rest =>
        match find fuel depth strict rest with
        | .mark c strict rest =>
          if c = 0x2C then do
            let (labels, values, strict, rest) ← members fuel depth false strict rest.tail
            return (label :: labels, j :: values, strict, rest)
          else if c = 0x7D then .ok ([label], [j], strict, rest.tail)
          else .error rest
        | .failed place => .error place
        | _ => .error rest
      | .failed place => .error place
      | _ => .error rest.tail
    | .failed place => .error place
    | _ => .error s

end

-- A text that is a JSON value, and whether it is one without JSON5. An error tells what is left
-- where it stands.
def read (s : List UInt8) : Except (List UInt8) (Json × Bool) :=
  match find (4 * s.length + 4) 0 true s with
  | .value j strict rest =>
    match rest.dropWhile isSpace with
    | [] => .ok (j, strict)
    | more => if (skipLoose more.length more).isEmpty then .ok (j, false) else .error rest
  | .failed place => .error place
  | .mark _ _ rest => .error rest
  | .nothing => .error s

end TableForge.Json
