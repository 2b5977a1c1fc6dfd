import TableForge.Json.Basic

-- JSON values as bytes: each value is a header with its kind and its size, and its content.
namespace TableForge.Json

def bytesOf (count n : Nat) : List UInt8 :=
  (List.range count).reverse.map fun i => UInt8.ofNat (n >>> (8 * i))

def header (kind size : Nat) : List UInt8 :=
  let first (mark : Nat) : UInt8 := UInt8.ofNat (mark * 16 + kind)
  if size ≤ 11 then [first size]
  else if size < 0x100 then first 12 :: bytesOf 1 size
  else if size < 0x10000 then first 13 :: bytesOf 2 size
  else first 14 :: bytesOf 4 size

def node (kind : Nat) (content : List UInt8) : List UInt8 := header kind content.length ++ content

def Spelled.encode (s : Spelled) : List UInt8 :=
  node (match s.spelling with
    | .plain => 7
    | .escaped => 8
    | .loose => 9
    | .raw => 10) s.bytes

mutual

def encode : Json → List UInt8
  | .null => node 0 []
  | .bool b => node (if b then 1 else 2) []
  | .int loose digits => node (if loose then 4 else 3) digits
  | .real loose digits => node (if loose then 6 else 5) digits
  | .text s => s.encode
  | .array items => node 11 (encodeAll items).flatten
  | .object labels values =>
    node 12 ((labels.zip (encodeAll values)).flatMap fun (label, value) => label.encode ++ value)

def encodeAll : List Json → List (List UInt8)
  | [] => []
  | j :: rest => encode j :: encodeAll rest

end

def naturalOfBytes (s : List UInt8) : Nat := s.foldl (fun n b => n * 256 + b.toNat) 0

def readNode? (s : List UInt8) : Option (Nat × List UInt8 × List UInt8) := do
  let first ← s.head?
  let mark := first.toNat / 16
  let count := if mark ≤ 11 then 0 else 1 <<< (mark - 12)
  let size := if mark ≤ 11 then mark else naturalOfBytes (s.tail.take count)
  let rest := s.tail.drop count
  if s.length < count + 1 || rest.length < size then none
  return (first.toNat % 16, rest.take size, rest.drop size)

def isNode (s : List UInt8) : Bool :=
  match readNode? s with
  | some (kind, content, []) => kind ≤ 12 && (2 < kind || content.isEmpty)
  | _ => false

def spelledOf? (kind : Nat) (s : List UInt8) : Option Spelled :=
  match kind with
  | 7 => some ⟨.plain, s⟩
  | 8 => some ⟨.escaped, s⟩
  | 9 => some ⟨.loose, s⟩
  | 10 => some ⟨.raw, s⟩
  | _ => none

def pairs? : List Json → Option (List Spelled × List Json)
  | [] => some ([], [])
  | .text label :: value :: rest => do
    let (labels, values) ← pairs? rest
    return (label :: labels, value :: values)
  | _ => none

-- The values that bytes are. Each value takes a unit of fuel.
def decodeAll? : Nat → List UInt8 → Option (List Json)
  | _, [] => some []
  | 0, _ => none
  | fuel + 1, s => do
    let (kind, content, rest) ← readNode? s
    let j ← match kind with
      | 0 => some Json.null
      | 1 => some (.bool true)
      | 2 => some (.bool false)
      | 3 => some (.int false content)
      | 4 => some (.int true content)
      | 5 => some (.real false content)
      | 6 => some (.real true content)
      | 11 => (decodeAll? fuel content).map .array
      | 12 => do
        let (labels, values) ← pairs? (← decodeAll? fuel content)
        some (Json.object labels values)
      | kind => (spelledOf? kind content).map .text
    return j :: (← decodeAll? fuel rest)

def decode? (s : List UInt8) : Option Json := do
  match ← decodeAll? (s.length + 1) s with
  | [j] => return j
  | _ => none

end TableForge.Json
