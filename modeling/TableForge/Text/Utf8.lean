namespace TableForge.Text.Utf8

def encode (s : String) : List UInt8 := s.toUTF8.toList

-- An unfinished character: how many bytes it still needs, the range that the next of them
-- must lie in, and the bits read so far.
structure Pending where
  need : Nat
  low : UInt8
  high : UInt8
  bits : Nat

-- The character written where the bytes spell none.
def replacement : Char := Char.ofNat 0xFFFD

-- A byte at the start of a character: the characters it completes and what it leaves open.
def start (b : UInt8) : List Char × Option Pending :=
  if b < 0x80 then ([Char.ofNat b.toNat], none)
  else if b < 0xC2 then ([replacement], none)
  else if b < 0xE0 then ([], some ⟨1, 0x80, 0xBF, b.toNat - 0xC0⟩)
  else if b = 0xE0 then ([], some ⟨2, 0xA0, 0xBF, 0⟩)
  else if b = 0xED then ([], some ⟨2, 0x80, 0x9F, 0xD⟩)
  else if b < 0xF0 then ([], some ⟨2, 0x80, 0xBF, b.toNat - 0xE0⟩)
  else if b = 0xF0 then ([], some ⟨3, 0x90, 0xBF, 0⟩)
  else if b < 0xF4 then ([], some ⟨3, 0x80, 0xBF, b.toNat - 0xF0⟩)
  else if b = 0xF4 then ([], some ⟨3, 0x80, 0x8F, 4⟩)
  else ([replacement], none)

-- One byte after the given state. A byte that cannot continue the open character ends it as a
-- replacement and is read again as a start.
def step (state : Option Pending) (b : UInt8) : List Char × Option Pending :=
  match state with
  | none => start b
  | some p =>
    if p.low ≤ b && b ≤ p.high then
      let bits := p.bits * 64 + (b.toNat - 0x80)
      if p.need ≤ 1 then ([Char.ofNat bits], none)
      else ([], some ⟨p.need - 1, 0x80, 0xBF, bits⟩)
    else
      let (out, next) := start b
      (replacement :: out, next)

def decodeFrom : Option Pending → List UInt8 → List Char
  | none, [] => []
  | some _, [] => [replacement]
  | state, b :: rest =>
    let (out, next) := step state b
    out ++ decodeFrom next rest

-- The text that the bytes spell; each longest broken beginning of a character becomes one
-- replacement character.
def decodeLossy (bytes : List UInt8) : String := String.ofList (decodeFrom none bytes)

def isContinuation (b : UInt8) : Bool := 0x80 ≤ b && b < 0xC0

-- The bytes of a text character by character. Every byte that continues a character belongs to
-- the one before it; without one it stands alone.
def characters (bytes : List UInt8) : List (List UInt8) :=
  let (pending, found) := bytes.foldr (fun b (pending, found) =>
    if isContinuation b then (b :: pending, found)
    else if b < 0x80 then ([], [b] :: (pending.map fun c => [c]) ++ found)
    else ([], (b :: pending) :: found)) ([], [])
  (pending.map fun c => [c]) ++ found

def firstBits (b : UInt8) : Nat :=
  if b < 0xE0 then b.toNat - 0xC0
  else if b < 0xF0 then b.toNat - 0xE0
  else if b < 0xF8 then b.toNat - 0xF0
  else if b < 0xFC then b.toNat - 0xF8
  else if b < 0xFE then b.toNat - 0xFC
  else 0

-- The number of a character of any length. Numbers that no character has are replaced.
def numberOf : List UInt8 → Nat
  | [] => 0
  | b :: rest =>
    if b < 0xC0 then b.toNat
    else
      let n := rest.foldl (fun n c => (n * 64 + (c.toNat - 0x80)) % 0x100000000) (firstBits b)
      if n < 0x80 || (0xD800 ≤ n && n < 0xE000) || n = 0xFFFE || n = 0xFFFF then 0xFFFD else n

def untilZero (bytes : List UInt8) : List UInt8 := bytes.takeWhile (· ≠ 0)

def numbers (bytes : List UInt8) : List Nat := (characters (untilZero bytes)).map numberOf

end TableForge.Text.Utf8
