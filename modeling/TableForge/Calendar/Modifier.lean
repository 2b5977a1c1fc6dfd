import TableForge.Calendar.Reading

-- Modifiers of points of time. One that cannot be read, or leads out of the range of dates, has
-- no result.
namespace TableForge.Calendar

open Numeral (isSpace)

-- A unit of time with the milliseconds that it counts, and the numbers of it that are too many.
structure Unit where
  name : String
  limit : Nat
  seconds : Nat

def units : List Unit := [
  ⟨"second", 464269992787968, 1⟩, ⟨"minute", 7737900007424, 60⟩, ⟨"hour", 128969998336, 3600⟩,
  ⟨"day", 5373485, 86400⟩, ⟨"month", 176546, 2592000⟩, ⟨"year", 14713, 31536000⟩]

namespace Moment

def ofUnixSeconds (p : Moment) (x : Binary64) : Option Moment :=
  let millis := (x.mul thousand).add (.ofInt unixEpoch)
  if millis.less (.zero false) || !millis.less (.ofInt (lastMoment + 1)) then none
  else some { p.forget with julian := some (whole (millis.add half)), plain := none }

-- A number as a Julian day if it can be one, and otherwise as seconds since the beginning of
-- 1970 if it can be these.
def guess (p : Moment) : Moment :=
  match p.plain with
  | none => p
  | some x =>
    if p.julian.isSome then { p with plain := none }
    else if x.less (.ofInt (-210866760000)) || (Binary64.ofInt 253402300799).less x then p
    else
      let millis := (x.mul thousand).add (.ofInt unixEpoch)
      { p.forget with julian := some (whole (millis.add half)), plain := none }

def later? (p : Moment) (millis : Int) : Option Moment := do
  let p ← p.withJulian?
  return { p.forget with julian := p.julian.map (· + millis) }

def toWeekday? (p : Moment) (n : Int) : Option Moment := do
  let p ← p.withDateAndTime?
  let p ← Moment.withJulian? { p with zone := 0, julian := none }
  let j ← p.julian
  let today := ((j + 129600000).tdiv millisPerDay).tmod 7
  p.later? ((n - if n < today then today - 7 else today) * millisPerDay)

def toStart? (p : Moment) (period : List Char) : Option Moment := do
  if p.julian.isNone && p.date.isNone && p.time.isNone then none
  let p ← p.withDate?
  let d ← p.date
  let date ← if isWord "month" period then some { d with day := 1 }
    else if isWord "year" period then some { d with month := 1, day := 1 }
    else if isWord "day" period then some d
    else none
  return { p with
    date := some date, time := some ⟨0, 0, .zero false⟩, plain := none, zone := 0, julian := none }

-- The moment some months or years later; the day may lie beyond the end of the month.
def withMonths? (p : Moment) (years months : Int) : Option Moment := do
  let p ← p.withDateAndTime?
  let d ← p.date
  let d := { d with year := d.year + years, month := d.month + months }.withinYear
  return { p with date := some d, surplus := d.surplus, julian := none }

def moveBy? (p : Moment) (x : Binary64) (u : Unit) : Option Moment := do
  let limit := Binary64.ofInt u.limit
  if !limit.neg.less x || !x.less limit then none
  let rounder := if x.less (.zero false) then half.neg else half
  let p ← Moment.withJulian? { p with surplus := 0 }
  let n := whole x
  let (p, x) ←
    if u.name = "month" then do pure (← p.withMonths? 0 n, x.sub (.ofInt n))
    else if u.name = "year" then do pure (← p.withMonths? n 0, x.sub (.ofInt n))
    else some (p, x)
  let millis := ((x.mul thousand).mul (.ofInt u.seconds)).add rounder
  p.later? (whole millis)

def moveByTime? (p : Moment) (back : Bool) (s : List Char) : Option Moment := do
  let t ← (← readTime? {} s).withJulian?
  let j := (← t.julian) - 43200000
  let j := j - j.tdiv millisPerDay * millisPerDay
  p.later? (if back then -j else j)

end Moment

-- How many characters of a modifier belong to its number. A hyphen ends it behind the digits of
-- a year.
def signedLength (s : List Char) : Nat :=
  let ends (n : Nat) : Bool :=
    match s[n]? with
    | none => true
    | some c =>
      c = ':' || isSpace c || (c = '-' &&
        ((n = 5 && (digits 4 0 14712 s.tail).isSome) ||
          (n = 6 && (digits 5 0 14712 s.tail).isSome)))
  ((List.range (s.length + 1)).find? fun n => 0 < n && ends n).getD s.length

-- A modifier that begins with a number: years, months and days, a time of the day, or a number
-- of units.
def move? (p : Moment) (s : List Char) : Option Moment := do
  let n := signedLength s
  let number ← Numeral.readAll (s.take n)
  let sign := s.head?
  let back := sign = some '-'
  if s[n]? = some '-' then
    if sign ≠ some '+' && !back then none
    let (years, rest) ← digits (n - 1) 0 14712 s.tail
    let (months, rest) ← digits 2 0 11 (← behind '-' rest)
    let (days, rest) ← digits 2 0 30 (← behind '-' rest)
    let p ← if back then p.withMonths? (-years) (-months) else p.withMonths? years months
    let p ← p.later? ((if back then -days else days) * millisPerDay)
    match rest with
    | [] => return p
    | c :: time =>
      if !isSpace c then none
      let (_, _, more) ← hoursAndMinutes 24 time
      discard (some more)
      p.moveByTime? back time
  else if s[n]? = some ':' then
    p.moveByTime? back (if sign.any Char.isDigit then s else s.tail)
  else
    let word := dropSpaces (s.drop n)
    if word.length < 3 || 10 < word.length then none
    let single := if word.getLast?.any (fun c => c.toLower = 's') then word.dropLast else word
    let u ← units.find? fun u => isWord u.name single
    p.moveBy? number.toReal u

-- The moment as local time. The place is one where local time is universal.
def toLocal? (p : Moment) : Option Moment := do
  if p.isLocal then return { p with isUniversal := false }
  let p ← p.withJulian?
  let p ← Moment.withDateAndTime? { p.forget with plain := none }
  return { p with julian := none, isUniversal := false, isLocal := true }

def toUniversal? (p : Moment) : Option Moment := do
  if p.isUniversal then return p
  return { julian := (← p.withJulian?).julian, isUniversal := true }

-- The moment modified without regard to where and when that happens. `isFirst` tells that no
-- other modifier came before.
def modify? (isFirst : Bool) (p : Moment) (s : List Char) : Option Moment :=
  if isWord "auto" s then if isFirst then some p.guess else none
  else if isWord "ceiling" s then do
    let p ← p.withJulian?
    return { p.forget with surplus := 0 }
  else if isWord "floor" s then do
    let p ← p.withJulian?
    return { p.forget with julian := p.julian.map (· - p.surplus * millisPerDay) }
  else if isWord "julianday" s then
    if isFirst && p.julian.isSome && p.plain.isSome then some { p with plain := none } else none
  else if isWord "unixepoch" s then
    if isFirst then p.plain.bind p.ofUnixSeconds else none
  else if isWord "weekday " (s.take 8) then do
    let x := (← Numeral.readAll (s.drop 8)).toReal
    let day := whole x
    if x.less (.zero false) || 7 ≤ day || (Binary64.ofInt day).orderKey ≠ x.orderKey then none
    p.toWeekday? day
  else if isWord "start of " (s.take 9) then p.toStart? (s.drop 9)
  else if isWord "subsec" s || isWord "subsecond" s then some { p with fine := true }
  else if s.head?.any fun c => c = '+' || c = '-' || c.isDigit then move? p s
  else none

-- The modified moment. Local time may be asked for if `mayAsk` tells so.
def modify (mayAsk isFirst : Bool) (p : Moment) (s : List Char) : Except Refusal Moment :=
  if isWord "localtime" s then if mayAsk then required (toLocal? p) else .error .unasked
  else if isWord "utc" s then if mayAsk then required (toUniversal? p) else .error .unasked
  else required (modify? isFirst p s)

end TableForge.Calendar
