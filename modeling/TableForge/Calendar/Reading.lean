import TableForge.Calendar.Moment
import TableForge.Datum.Numeral
import TableForge.Text.Ascii

-- Points of time as they are written: a date, a time or both, or a number.
namespace TableForge.Calendar

open Numeral (isSpace)

def digits (count low high : Nat) (s : List Char) : Option (Int × List Char) :=
  let n := Numeral.valueOf 0 (s.take count)
  if (s.take count).length = count && (s.take count).all Char.isDigit && low ≤ n && n ≤ high then
    some (n, s.drop count)
  else none

def behind (c : Char) (s : List Char) : Option (List Char) :=
  if s.head? = some c then some s.tail else none

def dropSpaces (s : List Char) : List Char := s.dropWhile isSpace

def hoursAndMinutes (mostHours : Nat) (s : List Char) : Option (Int × Int × List Char) := do
  let (h, s) ← digits 2 0 mostHours s
  let (m, s) ← digits 2 0 59 (← behind ':' s)
  return (h, m, s)

-- How far a time is ahead in minutes, and whether it is known to be universal. Nothing may
-- follow.
def readZone? (s : List Char) : Option (Int × Bool) :=
  let finish (zone : Int) (rest : List Char) : Option (Int × Bool) :=
    if (dropSpaces rest).isEmpty then some (zone, zone = 0) else none
  match dropSpaces s with
  | [] => some (0, false)
  | c :: rest =>
    if c = 'Z' || c = 'z' then finish 0 rest
    else if c = '+' || c = '-' then do
      let (h, m, rest) ← hoursAndMinutes 14 rest
      finish (if c = '-' then -(h * 60 + m) else h * 60 + m) rest
    else none

-- The most that a fraction of a second counts.
def greatestFraction : Binary64 := ⟨0x3FEFF7CED916872B⟩

def fraction (s : List Char) : Binary64 :=
  let ten := Binary64.ofInt 10
  let step (sum : Binary64 × Binary64) (c : Char) : Binary64 × Binary64 :=
    (((sum.1.mul ten).add (.ofInt c.toNat)).sub (.ofInt '0'.toNat), sum.2.mul ten)
  let (x, scale) := s.foldl step (.zero false, .ofInt 1)
  let x := (x.div? scale).getD Binary64.nan
  if greatestFraction.less x then greatestFraction else x

def readSeconds? (s : List Char) : Option (Binary64 × List Char) :=
  match s with
  | ':' :: rest => do
    let (n, rest) ← digits 2 0 59 rest
    match rest with
    | '.' :: c :: more =>
      if c.isDigit then
        let digits := (c :: more).takeWhile Char.isDigit
        return ((Binary64.ofInt n).add (fraction digits), (c :: more).dropWhile Char.isDigit)
      else return (.ofInt n, rest)
    | _ => return (.ofInt n, rest)
  | _ => some (.zero false, s)

-- A time of the day up to the end of the text. What else is known of the moment stays.
def readTime? (p : Moment) (s : List Char) : Option Moment := do
  let (hour, minute, s) ← hoursAndMinutes 24 s
  let (second, s) ← readSeconds? s
  let (zone, isUniversal) ← readZone? s
  return { p with
    julian := none, plain := none, time := some ⟨hour, minute, second⟩, zone
    isUniversal := p.isUniversal || isUniversal, isLocal := p.isLocal && !isUniversal }

def readDate? (s : List Char) : Option Moment := do
  let isNegative := s.head? = some '-'
  let (year, s) ← digits 4 0 14712 (if isNegative then s.tail else s)
  let (month, s) ← digits 2 1 12 (← behind '-' s)
  let (day, s) ← digits 2 1 31 (← behind '-' s)
  let s := s.dropWhile fun c => isSpace c || c = 'T'
  let p ← if s.isEmpty then some {} else readTime? {} s
  let date : Date := ⟨if isNegative then -year else year, month, day⟩
  let p := { p with julian := none, date := some date, surplus := date.surplus }
  if p.zone = 0 then return p
  p.withJulian?

def isWord (word : String) (s : List Char) : Bool :=
  Text.sameLetters word (String.ofList s)

-- Why there is no moment: it cannot be read, or it is not to be asked for.
inductive Refusal where
  | unreadable
  | unasked
  deriving DecidableEq, Repr

def required {α : Type} : Option α → Except Refusal α
  | some a => .ok a
  | none => .error .unreadable

-- A moment as it is written. The present one may be asked for if it is given.
def read (now : Option Int) (s : List Char) : Except Refusal Moment :=
  let present : Except Refusal Moment := match now with
    | some now => .ok { Moment.ofJulian now with isUniversal := true }
    | none => .error .unasked
  match readDate? s with
  | some p => .ok p
  | none =>
    match readTime? {} s with
    | some p => .ok p
    | none =>
      if isWord "now" s then present
      else
        match Numeral.readAll s with
        | some n => .ok (.ofNumber n.toReal)
        | none =>
          if isWord "subsec" s || isWord "subsecond" s then do
            return { (← present) with fine := true }
          else .error .unreadable

end TableForge.Calendar
