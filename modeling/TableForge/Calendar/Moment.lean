import TableForge.Decimal.Printed

-- Points of time. The whole part of a point of time is its Julian day, in milliseconds since
-- noon on November 24 in the year -4713 of the Gregorian calendar.
namespace TableForge.Calendar

structure Date where
  year : Int
  month : Int
  day : Int
  deriving DecidableEq, Repr

structure TimeOfDay where
  hour : Int
  minute : Int
  second : Binary64
  deriving DecidableEq, Repr

-- A point of time, as far as it is known: by its Julian day, by date and time, or both. A number
-- that has not been given a meaning yet is kept as it is.
structure Moment where
  julian : Option Int := none
  date : Option Date := none
  time : Option TimeOfDay := none
  -- how many minutes the time is ahead
  zone : Int := 0
  plain : Option Binary64 := none
  -- by how many days the date is beyond the end of its month
  surplus : Int := 0
  -- whether fractions of a second are wanted
  fine : Bool := false
  isUniversal : Bool := false
  isLocal : Bool := false

def millisPerDay : Int := 86400000

-- The Julian day of the beginning of 1970.
def unixEpoch : Int := 210866760000000

-- The last millisecond of the year 9999.
def lastMoment : Int := 464269060799999

namespace Date

def julian (d : Date) : Int :=
  let (y, m) := if d.month ≤ 2 then (d.year - 1, d.month + 12) else (d.year, d.month)
  let century := (y + 4800).tdiv 100
  let leaps := 38 - century + century.tdiv 4
  let days := (36525 * (y + 4716)).tdiv 100 + (306001 * (m + 1)).tdiv 10000 + d.day + leaps
  days * millisPerDay - 131716800000

def ofJulian (julian : Int) : Date :=
  let z := (julian + 43200000).tdiv millisPerDay
  let alpha := (4 * z + 128179).tdiv 146097 - 52
  let b := z + 1 + alpha - (alpha + 100).tdiv 4 + 25 + 1524
  let c := (100 * b - 12210).tdiv 36525
  let d := (36525 * c).tdiv 100
  let e := (10000 * (b - d)).tdiv 306001
  let month := if e < 14 then e - 1 else e - 13
  { day := b - d - (306001 * e).tdiv 10000
    month
    year := if 2 < month then c - 4716 else c - 4715 }

def surplus (d : Date) : Int :=
  if d.day ≤ 28 || d.month ∈ [1, 3, 5, 7, 8, 10, 12] then 0
  else if d.month ≠ 2 then if d.day = 31 then 1 else 0
  else if d.year % 4 ≠ 0 || (d.year % 100 = 0 && d.year % 400 ≠ 0) then d.day - 28
  else d.day - 29

def withinYear (d : Date) : Date :=
  let years := if 0 < d.month then (d.month - 1).tdiv 12 else (d.month - 12).tdiv 12
  { d with year := d.year + years, month := d.month - years * 12 }

end Date

def whole (x : Binary64) : Int := x.truncate

def thousand : Binary64 := .ofInt 1000

def half : Binary64 := ⟨0x3FE0000000000000⟩

def thousands (x : Binary64) : Int := whole ((x.mul thousand).add half)

namespace TimeOfDay

def millis (t : TimeOfDay) : Int := t.hour * 3600000 + t.minute * 60000 + thousands t.second

def ofJulian (julian : Int) : TimeOfDay :=
  let millis := (julian + 43200000).tmod millisPerDay
  let minutes := millis.tdiv 60000
  { hour := minutes.tdiv 60
    minute := minutes.tmod 60
    second := ((Binary64.ofInt (millis.tmod 60000)).div? thousand).getD (.zero false) }

end TimeOfDay

namespace Moment

def isValid (julian : Int) : Bool := 0 ≤ julian && julian ≤ lastMoment

def forget (p : Moment) : Moment := { p with date := none, time := none, zone := 0 }

-- The moment with its Julian day. Without a date it is on the first day of 2000; a number
-- without a meaning has none.
def withJulian? (p : Moment) : Option Moment := do
  if p.julian.isSome then return p
  let date := p.date.getD ⟨2000, 1, 1⟩
  if date.year < -4713 || 9999 < date.year || p.plain.isSome then none
  match p.time with
  | none => return { p with julian := some date.julian }
  | some t =>
    let julian := date.julian + t.millis
    if p.zone = 0 then return { p with julian := some julian }
    return { p.forget with
      julian := some (julian - p.zone * 60000), isUniversal := true, isLocal := false }

def withDate? (p : Moment) : Option Moment := do
  if p.date.isSome then return p
  match p.julian with
  | none => return { p with date := some ⟨2000, 1, 1⟩ }
  | some j => if isValid j then return { p with date := some (.ofJulian j) } else none

def withTime? (p : Moment) : Option Moment := do
  if p.time.isSome then return p
  let p ← p.withJulian?
  return { p with time := p.julian.map .ofJulian, plain := none }

def withDateAndTime? (p : Moment) : Option Moment := do (← p.withDate?).withTime?

def ofJulian (julian : Int) : Moment := { julian := some julian }

-- A number whose meaning is not known yet; as far as it can be one it is a Julian day.
def ofNumber (x : Binary64) : Moment :=
  let day := Binary64.ofInt millisPerDay
  let limit : Binary64 := ⟨0x41547F8B20000000⟩
  let isDay := !x.less (.zero false) && x.less limit
  { plain := some x, julian := if isDay then some (whole ((x.mul day).add half)) else none }

end Moment

end TableForge.Calendar
