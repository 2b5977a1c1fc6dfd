import TableForge.Function.Text

-- Functions of numbers, and those that choose among values.
namespace TableForge.Function

-- A value as a real, zero for a null.
def realOf (d : Datum) : Binary64 := (d.toReal?).getD (.zero false)

def absolute? : Datum → Option Datum
  | .null => some .null
  | .int i => if i = Numeral.minInt then none else some (.int i.natAbs)
  | d =>
    let x := realOf d
    some (.real (if x.less (.zero false) then x.neg else x))

def readReal (s : List Char) : Binary64 := ((Numeral.readAll s).map (·.toReal)).getD (.zero false)

def half : Binary64 := ⟨0x3FE0000000000000⟩

-- From this size on a double has no fraction.
def wholeSize : Binary64 := ⟨0x4330000000000000⟩

def roundReal (places : Nat) (x : Binary64) : Binary64 :=
  if wholeSize.less x.abs then x
  else if places = 0 then
    let y := x.add (if x.less (.zero false) then half.neg else half)
    Binary64.ofInt y.truncate
  else readReal (x.printed { form := .fixed, precision := places, full := true })

def round : List Datum → Datum
  | [] => .null
  | d :: more =>
    let places := match more with
      | [] => some 0
      | .null :: _ => none
      | e :: _ => some (min (Int.bmod (intOf e) 0x100000000) 30).toNat
    match places, d with
    | none, _ | _, .null => .null
    | some n, d => .real (roundReal n (realOf d))

def signOf (d : Datum) : Datum :=
  let ofReal (x : Binary64) : Datum :=
    .int (if x.less (.zero false) then -1 else if x.isZero then 0 else 1)
  match d with
  | .int i => .int i.sign
  | .real x => ofReal x
  | .text s => ((Numeral.readAll (Datum.chars s)).map fun n => ofReal n.toReal).getD .null
  | _ => .null

-- The least or the greatest argument, null if one of them is. Of equal ones the least is the
-- last, the greatest the first.
def extreme (least : Bool) (call : Call) : Option Operand :=
  match call.arguments with
  | [] => none
  | d :: rest =>
    if (d :: rest).any (·.datum.isNull) then some { datum := .null }
    else some (rest.foldl (fun best e =>
      let order := Datum.compare call.collation best.datum e.datum
      if (if least then order != .lt else order == .lt) then e else best) d)

def unlessSame (call : Call) : Option Operand :=
  match call.arguments with
  | [a, b] =>
    if Datum.same call.collation a.datum b.datum then some { datum := .null } else some a
  | _ => none

def first (call : Call) : Option Operand := call.arguments.head?

def firstPresent : List (Option Operand) → Option Operand
  | [] => some { datum := .null }
  | a :: rest => do
    let a ← a
    if a.datum.isNull then firstPresent rest else a

-- Conditions and values in turn; a last argument without a value is the value otherwise.
def choose : List (Option Operand) → Option Operand
  | [] => some { datum := .null }
  | [otherwise] => otherwise
  | condition :: value :: rest => do
    if (← condition).datum.truth? = some true then value else choose rest

-- A real as a literal: the shorter form if it gives the same number back.
def realLiteral (x : Binary64) : List Char :=
  let short := x.printed { form := .general, precision := 15, full := true, zeroWidth := some 0 }
  if (readReal short).orderKey = x.orderKey then short
  else x.printed { form := .exponential, precision := 20, full := true, zeroWidth := some 0 }

def quoted (quote : UInt8) (s : List UInt8) : List UInt8 :=
  quote :: (Text.Utf8.untilZero s).flatMap (fun b => if b = quote then [b, b] else [b]) ++ [quote]

def literalOf : Datum → List UInt8
  | .null => Text.Utf8.encode "NULL"
  | .int i => Text.Utf8.encode (toString i)
  | .real x => Text.Utf8.encode (String.ofList (realLiteral x))
  | .blob s => 0x58 :: 0x27 :: hexDigits s ++ [0x27]
  | .text s => quoted 0x27 s

def scattered (place : List Int) : Nat :=
  let mix (n : Nat) : Nat := (n * 0x9E3779B97F4A7C15 + 0xD1B54A32D192ED03) % Numeral.wordSize
  place.foldr (fun (i : Int) n =>
    let m := mix (n + 2 * i.natAbs + if i < 0 then 1 else 0)
    mix (m ^^^ (m >>> 29))) 0

def drawnBytes (o : Occasion) (place : List Int) (size : Nat) : List UInt8 :=
  (List.range size).map fun (i : Nat) => UInt8.ofNat (o.drawn (i :: -1 :: place))

def ofNumbers : List Function := [
  ofData? "abs" 1 (some 1) fun ds => absolute? (ds.headD .null),
  ofData "round" 1 2 round,
  ofData "sign" 1 1 (single signOf),
  { name := "min", least := 2, most := none, value? := extreme true },
  { name := "max", least := 2, most := none, value? := extreme false },
  { name := "nullif", least := 2, most := some 2, value? := unlessSame },
  { name := "coalesce", least := 2, most := none, choice? := some firstPresent },
  { name := "ifnull", least := 2, most := some 2, choice? := some firstPresent },
  { name := "iif", least := 2, most := none, choice? := some choose },
  { name := "if", least := 2, most := none, choice? := some choose },
  { name := "likely", least := 1, most := some 1, value? := first },
  { name := "unlikely", least := 1, most := some 1, value? := first },
  { name := "likelihood", least := 2, most := some 2, value? := first },
  ofData "quote" 1 1 (single fun d => .text (literalOf d)),
  { name := "subtype", least := 1, most := some 1
    value? := fun call =>
      some { datum := .int (if call.arguments.any (·.isJson) then 74 else 0) } },
  { name := "random", least := 0, most := some 0, stability := .fleeting
    value? := fun call =>
      let drawn := call.circumstances.occasion.drawn call.circumstances.place
      some { datum := .int (Int.bmod drawn Numeral.wordSize) } },
  { name := "randomblob", least := 1, most := some 1, stability := .fleeting
    value? := fun call => do
      let size := max (intOf (← call.arguments.head?).datum) 1
      if greatestLength < size then none
      let c := call.circumstances
      return { datum := .blob (drawnBytes c.occasion c.place size.toNat) } },
  { name := "last_insert_rowid", least := 0, most := some 0, stability := .fleeting
    value? := fun call => some { datum := .int call.circumstances.occasion.lastRowid } },
  { ofData "sqlite_version" 0 0 (fun _ => .ofText "3.49.1") with stability := .momentary },
  { ofData? "match" 2 (some 2) (fun _ => none) with stability := .fleeting }]

end TableForge.Function
