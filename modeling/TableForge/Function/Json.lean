import TableForge.Function.Number
import TableForge.Json.Binary
import TableForge.Json.Path
import TableForge.Json.Printer
import TableForge.Json.Reader

-- Functions of JSON values. A text that is to be JSON must be readable as such.
namespace TableForge.Function

inductive JsonForm where
  | text
  | bytes
  deriving DecidableEq, Repr

def ofJsonText (s : List UInt8) : Operand := { datum := .text s, isJson := true }

def ofJson (form : JsonForm) (j : Json) : Operand :=
  match form with
  | .text => ofJsonText j.render
  | .bytes => { datum := .blob j.encode }

def readJson? (s : List UInt8) : Option Json :=
  match Json.read (Text.Utf8.untilZero s) with
  | .ok (j, _) => some j
  | .error _ => none

-- The value that an argument is; a null is none. The outer option tells whether it can be read.
def argument? (d : Datum) : Option (Option Json) :=
  match d with
  | .null => some none
  | .blob s => if Json.isNode s then (Json.decode? s).map some else (readJson? s).map some
  | d => d.bytes?.bind fun s => (readJson? s).map some

def partOf? (a : Operand) : Option Json :=
  match a.datum with
  | .null => some .null
  | .int i => some (.int false (Json.ofAscii (toString i)))
  | .real x =>
    let s := x.columnText.map fun c => UInt8.ofNat c.toNat
    some (.real false
      (if x.isFinite then s else Json.ofAscii (if x.negative then "-9e999" else "9e999")))
  | .text s => if a.isJson then readJson? s else some (.text ⟨.raw, s⟩)
  | .blob s => if Json.isNode s then Json.decode? s else none

def partText? (a : Operand) : Option (List UInt8) :=
  match a.datum with
  | .real x =>
    let style : RealStyle :=
      { form := .general, precision := 15, full := true, zeroWidth := some 0 }
    some ((x.printed style).map fun c => UInt8.ofNat c.toNat)
  | .text s => some (if a.isJson then s else Json.quoteRaw s)
  | _ => (partOf? a).map Json.render

def integerOf (digits : List UInt8) : Datum :=
  let isNegative := digits.head? = some 0x2D
  let body := if isNegative then digits.tail else digits
  let isHex := body[1]?.any fun b => b = 0x78 || b = 0x58
  let n := if isHex then Json.hexNumber (body.drop 2) else Json.naturalOf body
  let limit := if isNegative then 0x8000000000000000 else 0x7FFFFFFFFFFFFFFF
  if n ≤ limit then .int (if isNegative then -n else n)
  else
    let x := if isHex then Binary64.ofInt n else readReal (Datum.chars body)
    .real (if isNegative then x.neg else x)

def plainOf (form : JsonForm) (j : Json) : Operand :=
  match j with
  | .null => { datum := .null }
  | .bool b => { datum := .ofBool b }
  | .int _ digits => { datum := integerOf digits }
  | .real _ digits => { datum := .real (readReal (Datum.chars digits)) }
  | .text s => { datum := .text s.content }
  | j => ofJson form j

def pathOf? (d : Datum) : Option (List UInt8) := do
  match Text.Utf8.untilZero (← d.bytes?) with
  | 0x24 :: rest => some rest
  | _ => none

def atPath (path : List UInt8) (j : Json) : Json.Lookup Json := Json.lookUp (path.length + 1) path j

-- The value at a path that is written in short: a label, or the number of an item.
def shortPath (d : Datum) : Option (List UInt8) := do
  let s := Text.Utf8.untilZero (← d.bytes?)
  let isWord := s.all fun b => Json.isWordPart b || b = 0x5F
  match d, s with
  | _, 0x24 :: rest => some rest
  | .int i, _ =>
    if i < 0 then some (Json.ofAscii "[#" ++ s ++ [0x5D]) else some (0x5B :: s ++ [0x5D])
  | _, s =>
    if isWord then some (0x2E :: s)
    else if s.head? = some 0x5B && 3 ≤ s.length && s.getLast? = some 0x5D then some s
    else some (Json.ofAscii ".\"" ++ s ++ [0x22])

def findAll? (j : Json) : List Datum → Option (List (List UInt8))
  | [] => some []
  | d :: rest => do
    let found ← match atPath (← pathOf? d) j with
      | .found j => some j.render
      | .missing => some (Json.ofAscii "null")
      | .badPath => none
    return found :: (← findAll? j rest)

-- A function of a JSON value and further arguments; it is null for a null.
def onJson (f : Json → List Operand → Option Operand) (call : Call) : Option Operand :=
  match call.arguments with
  | [] => some { datum := .null }
  | a :: rest => do
    match ← argument? a.datum with
    | none => return { datum := .null }
    | some j => f j rest

def extract (form : JsonForm) (j : Json) (paths : List Operand) : Option Operand :=
  match paths with
  | [] => some { datum := .null }
  | [a] =>
    if a.datum.isNull then some { datum := .null }
    else do
      match atPath (← pathOf? a.datum) j with
      | .found j => return plainOf form j
      | .missing => return { datum := .null }
      | .badPath => none
  | paths =>
    if paths.any (·.datum.isNull) then some { datum := .null }
    else do
      let found ← findAll? j (paths.map (·.datum))
      let s := 0x5B :: Json.separated [0x2C] found ++ [0x5D]
      return ← match form with
        | .text => some (ofJsonText s)
        | .bytes => (readJson? s).map (ofJson .bytes)

def arrow (plain : Bool) (j : Json) (paths : List Operand) : Option Operand :=
  match paths with
  | [a] =>
    if a.datum.isNull then some { datum := .null }
    else do
      match atPath (← shortPath a.datum) j with
      | .found j =>
        return if plain then { datum := (plainOf .text j).datum } else ofJsonText j.render
      | .missing => return { datum := .null }
      | .badPath => none
  | _ => none

def describe (answer : Json → Datum) (j : Json) (paths : List Operand) : Option Operand :=
  match paths with
  | [] => some { datum := answer j }
  | a :: _ =>
    if a.datum.isNull then some { datum := .null }
    else do
      match atPath (← pathOf? a.datum) j with
      | .found j => return { datum := answer j }
      | .missing => return { datum := .null }
      | .badPath => none

def sizeOfArray : Json → Datum
  | .array items => .int items.length
  | _ => .int 0

def changeAll? (kind : Json → Json.Change) : Json → List Operand → Option Json
  | j, path :: value :: rest =>
    if path.datum.isNull then changeAll? kind j rest
    else do
      let s ← pathOf? path.datum
      let change := kind (← partOf? value)
      let changed ←
        if s.isEmpty then some (if change.creates && !(change matches .set _) then j
          else (change.value?).getD j)
        else
          match Json.change change (2 * s.length + 1) s j with
          | .found new => some (new.getD j)
          | .missing => some j
          | .badPath => none
      changeAll? kind changed rest
  | j, _ => some j

def changed (form : JsonForm) (kind : Json → Json.Change) (call : Call) : Option Operand :=
  if call.arguments.length % 2 = 0 && !call.arguments.isEmpty then none
  else onJson (fun j rest => (changeAll? kind j rest).map (ofJson form)) call

-- A value without the parts at paths; nothing is left at an empty one.
def removeAll? : Json → List Operand → Option (Option Json)
  | j, [] => some (some j)
  | j, path :: rest =>
    if path.datum.isNull then some none
    else do
      let s ← pathOf? path.datum
      if s.isEmpty then return none
      match Json.change .delete (2 * s.length + 1) s j with
      | .found new => removeAll? (new.getD j) rest
      | .missing => removeAll? j rest
      | .badPath => none

def removed (form : JsonForm) (call : Call) : Option Operand :=
  onJson (fun j rest => (removeAll? j rest).map fun j =>
    (j.map (ofJson form)).getD { datum := .null }) call

def patched (form : JsonForm) (call : Call) : Option Operand :=
  onJson (fun j rest => do
    match ← argument? (← rest.head?).datum with
    | none => return { datum := .null }
    | some patch => return ofJson form (j.merge 2000 patch)) call

def formed? (form : JsonForm) (s : List UInt8) : Option Operand :=
  match form with
  | .text => some (ofJsonText s)
  | .bytes => (readJson? s).map (ofJson .bytes)

def arrayOf (form : JsonForm) (call : Call) : Option Operand := do
  formed? form (0x5B :: Json.separated [0x2C] (← call.arguments.mapM partText?) ++ [0x5D])

-- Labels, which must be texts, in front of their values.
def membersOf? : List Operand → Option (List (List UInt8))
  | [] => some []
  | label :: value :: rest => do
    match label.datum with
    | .text s => return (Json.quoteRaw s ++ 0x3A :: (← partText? value)) :: (← membersOf? rest)
    | _ => none
  | _ => none

def objectOf (form : JsonForm) (call : Call) : Option Operand := do
  formed? form (0x7B :: Json.separated [0x2C] (← membersOf? call.arguments) ++ [0x7D])

def isValid? (ds : List Datum) : Option Datum := do
  let d ← ds.head?
  let wanted := (ds[1]?.map intOf).getD 1
  if wanted < 1 || 15 < wanted then none
  let asks (bit : Nat) : Bool := wanted.toNat &&& bit ≠ 0
  let asText : Datum :=
    match d.bytes? with
    | none => .null
    | some s =>
      match Json.read (Text.Utf8.untilZero s) with
      | .ok (_, strict) => .ofBool (asks 2 || (asks 1 && strict))
      | .error _ => .ofBool false
  return match d with
    | .blob s =>
      if Json.isNode s then .ofBool (asks 4 || (asks 8 && (Json.decode? s).isSome)) else asText
    | _ => asText

-- Where a text stops to be JSON: the number of the character, or zero if it is.
def errorPlace (d : Datum) : Datum :=
  onBytes (fun s =>
    let s := Text.Utf8.untilZero s
    match Json.read s with
    | .ok _ => .int 0
    | .error rest =>
      let passed := s.take (s.length - rest.length)
      .int ((passed.filter (!Text.Utf8.isContinuation ·)).length + 1)) d

def pretty (j : Json) (more : List Operand) : Option Operand :=
  let indent := (more.head?.bind fun a => a.datum.bytes?).getD (Json.ofAscii "    ")
  some { datum := .text (j.renderPretty (Text.Utf8.untilZero indent) 0) }

def jsonFunction (name : String) (least : Nat) (most : Option Nat)
    (value? : Call → Option Operand) : Function := { name, least, most, value? }

-- The functions that answer in one form; the names of those that answer with bytes have another
-- beginning.
def ofForm (form : JsonForm) (start : String) : List Function := [
  jsonFunction start 1 (some 1) (onJson fun j _ => some (ofJson form j)),
  jsonFunction (start ++ "_array") 0 none (arrayOf form),
  jsonFunction (start ++ "_extract") 0 none (onJson (extract form)),
  jsonFunction (start ++ "_insert") 0 none (changed form .insert),
  jsonFunction (start ++ "_replace") 0 none (changed form .replace),
  jsonFunction (start ++ "_set") 0 none (changed form .set),
  jsonFunction (start ++ "_object") 0 none (objectOf form),
  jsonFunction (start ++ "_patch") 2 (some 2) (patched form),
  jsonFunction (start ++ "_remove") 0 none (removed form)]

def ofJsons : List Function := ofForm .text "json" ++ ofForm .bytes "jsonb" ++ [
  jsonFunction "json_array_length" 1 (some 2) (onJson (describe sizeOfArray)),
  jsonFunction "json_error_position" 1 (some 1) fun call =>
    call.arguments.head?.map fun a => { datum := errorPlace a.datum },
  jsonFunction "->" 2 (some 2) (onJson (arrow false)),
  jsonFunction "->>" 2 (some 2) (onJson (arrow true)),
  jsonFunction "json_pretty" 1 (some 2) (onJson pretty),
  jsonFunction "json_quote" 1 (some 1) fun call => do
    return ofJsonText (← partText? (← call.arguments.head?)),
  jsonFunction "json_type" 1 (some 2) (onJson (describe fun j => .ofText j.kind)),
  ofData? "json_valid" 1 (some 2) isValid?]

end TableForge.Function
