import TableForge.Calendar.Written
import TableForge.Function.Number

-- Functions of points of time. A value is a Julian day or a text, and modifiers may follow it.
namespace TableForge.Function

open Calendar

def asciiOf (s : List UInt8) : List Char := Datum.chars (Text.Utf8.untilZero s)

def ofAscii (s : List Char) : Datum := .text (s.map fun c => UInt8.ofNat c.toNat)

def startOf (now : Option Int) : Datum → Except Refusal Moment
  | .int i => .ok (.ofNumber (.ofInt i))
  | .real x => .ok (.ofNumber x)
  | .text s | .blob s => Calendar.read now (asciiOf s)
  | .null => .error .unreadable

def modifyAll (mayAsk : Bool) : Bool → Moment → List Datum → Except Refusal Moment
  | _, p, [] => .ok p
  | isFirst, p, d :: rest => do
    let s ← required d.bytes?
    modifyAll mayAsk false (← Calendar.modify mayAsk isFirst p (asciiOf s)) rest

-- The moment of a value with modifiers, of nothing the present one; it has a Julian day. A day
-- beyond the end of its month belongs to the next one.
def momentOf (now : Option Int) (ds : List Datum) : Except Refusal Moment := do
  let d := ds.headD (.ofText "now")
  let p ← startOf now d
  let p ← modifyAll now.isSome true p ds.tail
  let p ← required p.withJulian?
  if !p.julian.any Moment.isValid then throw .unreadable
  if ds.length = 1 && p.date.any (28 < ·.day) then return { p with date := none }
  return p

-- What is asked for of a moment, null if there is no moment, and nothing if the clock would have
-- to be asked where that is not allowed.
def onMoment (call : Call) (arguments : List Operand) (f : Moment → Option Datum) :
    Option Operand :=
  let c := call.circumstances
  let now := if c.isLasting then none else some c.occasion.now
  match momentOf now (arguments.map (·.datum)) with
  | .ok p => some { datum := (f p).getD .null }
  | .error .unreadable => some { datum := .null }
  | .error .unasked => none

def dateText (p : Moment) : Option Datum := do
  return ofAscii (← (← p.withDate?).date).text

def timeText (p : Moment) : Option Datum := do
  return ofAscii ((← (← p.withTime?).time).text p.fine)

def fullText (p : Moment) : Option Datum := do
  let p ← p.withDateAndTime?
  return ofAscii ((← p.date).text ++ ' ' :: (← p.time).text p.fine)

def unixTime (p : Moment) : Option Datum := do
  let j ← p.julian
  return if p.fine then .real (unixSeconds j) else .int (wholeUnixSeconds j)

def inFormat (format : List UInt8) (p : Moment) : Option Datum := do
  let p ← p.withDateAndTime?
  let field := field? p.fine (← p.julian) (← p.date) (← p.time)
  return ofAscii (← filled? field (asciiOf format))

def formatMoment (call : Call) : Option Operand :=
  match call.arguments with
  | [] => some { datum := .null }
  | format :: rest =>
    match format.datum.bytes? with
    | none => some { datum := .null }
    | some s => onMoment call rest (inFormat s)

def differenceText (call : Call) : Option Operand :=
  match call.arguments with
  | [a, b] =>
    let now := if call.circumstances.isLasting then none else some call.circumstances.occasion.now
    let both := do
      let p ← momentOf now [a.datum]
      let q ← momentOf now [b.datum]
      required (difference? p q)
    match both with
    | .ok s => some { datum := ofAscii s }
    | .error .unreadable => some { datum := .null }
    | .error .unasked => none
  | _ => none

def ofMoment (name : String) (f : Moment → Option Datum) : Function where
  name
  least := 0
  most := none
  value? call := onMoment call call.arguments f

-- A function of the present moment, which may always be asked for.
def ofPresent (name : String) (f : Moment → Option Datum) : Function where
  name
  least := 0
  most := some 0
  stability := .momentary
  value? call :=
    onMoment { call with circumstances := { call.circumstances with isLasting := false } } [] f

def ofTimes : List Function := [
  ofMoment "date" dateText,
  ofMoment "time" timeText,
  ofMoment "datetime" fullText,
  ofMoment "julianday" fun p => (p.julian).map fun j => .real (days j),
  ofMoment "unixepoch" unixTime,
  { name := "strftime", least := 0, most := none, value? := formatMoment },
  { name := "timediff", least := 2, most := some 2, value? := differenceText },
  ofPresent "current_date" dateText,
  ofPresent "current_time" timeText,
  ofPresent "current_timestamp" fullText]

end TableForge.Function
