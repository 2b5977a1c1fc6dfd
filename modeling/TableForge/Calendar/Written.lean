import TableForge.Calendar.Modifier

-- Points of time as texts. They are handed over with all their parts.
namespace TableForge.Calendar

def inDigits (count : Nat) (i : Int) : List Char :=
  let digits := Nat.toDigits 10 i.natAbs
  List.replicate (count - digits.length) '0' ++ digits

-- A number with its sign that takes up a certain width; zeros fill it.
def signedDigits (width : Nat) (i : Int) : List Char :=
  if i < 0 then '-' :: inDigits (width - 1) i else inDigits width i

def spaced (i : Int) : List Char := if 0 ≤ i && i < 10 then ' ' :: inDigits 1 i else inDigits 1 i

namespace Date

def yearText (d : Date) : List Char :=
  (if d.year < 0 then ['-'] else []) ++ inDigits 4 (d.year.natAbs % 10000 : Nat)

def text (d : Date) : List Char :=
  d.yearText ++ '-' :: inDigits 2 d.month ++ '-' :: inDigits 2 d.day

end Date

namespace TimeOfDay

def minuteText (t : TimeOfDay) : List Char := inDigits 2 t.hour ++ ':' :: inDigits 2 t.minute

def text (fine : Bool) (t : TimeOfDay) : List Char :=
  let seconds :=
    if fine then
      let n := thousands t.second
      inDigits 2 (n.tdiv 1000) ++ '.' :: inDigits 3 (n.tmod 1000)
    else inDigits 2 (whole t.second)
  t.minuteText ++ ':' :: seconds

def secondText (t : TimeOfDay) : List Char :=
  t.second.printed { form := .fixed, precision := 3, zeroWidth := some 6 }

end TimeOfDay

-- The days since the last Monday, and since the last Sunday.

def daysAfterMonday (julian : Int) : Int := ((julian + 43200000).tdiv millisPerDay).tmod 7

def daysAfterSunday (julian : Int) : Int := ((julian + 129600000).tdiv millisPerDay).tmod 7

def daysAfterNewYear (julian year : Int) (t : TimeOfDay) : Int :=
  (julian - ((⟨year, 1, 1⟩ : Date).julian + t.millis) + 43200000).tdiv millisPerDay

def thursday (julian : Int) : Int := julian + (3 - daysAfterMonday julian) * millisPerDay

def unixSeconds (julian : Int) : Binary64 :=
  ((Binary64.ofInt (julian - unixEpoch)).div? thousand).getD (.zero false)

def wholeUnixSeconds (julian : Int) : Int := julian.tdiv 1000 - 210866760000

def days (julian : Int) : Binary64 :=
  ((Binary64.ofInt julian).div? (.ofInt millisPerDay)).getD (.zero false)

def field? (fine : Bool) (j : Int) (d : Date) (t : TimeOfDay) (letter : Char) :
    Option (List Char) :=
  let hour := if t.hour % 12 = 0 then 12 else if 12 < t.hour then t.hour - 12 else t.hour
  let yearDay := daysAfterNewYear j d.year t
  let weekDate := Date.ofJulian (thursday j)
  match letter with
  | 'd' => some (inDigits 2 d.day)
  | 'e' => some (spaced d.day)
  | 'f' => some t.secondText
  | 'F' => some (signedDigits 4 d.year ++ '-' :: inDigits 2 d.month ++ '-' :: inDigits 2 d.day)
  | 'G' => some (signedDigits 4 weekDate.year)
  | 'g' => some (signedDigits 2 (weekDate.year.tmod 100))
  | 'H' => some (inDigits 2 t.hour)
  | 'k' => some (spaced t.hour)
  | 'I' => some (inDigits 2 hour)
  | 'l' => some (spaced hour)
  | 'j' => some (signedDigits 3 (yearDay + 1))
  | 'J' => some ((days j).printed { form := .general, precision := 16 })
  | 'm' => some (inDigits 2 d.month)
  | 'M' => some (inDigits 2 t.minute)
  | 'p' => some (if 12 ≤ t.hour then ['P', 'M'] else ['A', 'M'])
  | 'P' => some (if 12 ≤ t.hour then ['p', 'm'] else ['a', 'm'])
  | 'R' => some t.minuteText
  | 's' =>
    if fine then some ((unixSeconds j).printed { form := .fixed, precision := 3 })
    else some (toString (wholeUnixSeconds j)).toList
  | 'S' => some (inDigits 2 (whole t.second))
  | 'T' => some (t.text false)
  | 'u' => some (inDigits 1 (if daysAfterSunday j = 0 then 7 else daysAfterSunday j))
  | 'w' => some (inDigits 1 (daysAfterSunday j))
  | 'U' => some (signedDigits 2 ((yearDay - daysAfterSunday j + 7).tdiv 7))
  | 'V' => some (signedDigits 2
      ((daysAfterNewYear (thursday j) weekDate.year t).tdiv 7 + 1))
  | 'W' => some (signedDigits 2 ((yearDay - daysAfterMonday j + 7).tdiv 7))
  | 'Y' => some (signedDigits 4 d.year)
  | '%' => some ['%']
  | _ => none

-- A format with its fields filled in; none if one of them is unknown. The pieces of the format
-- between the fields are kept.
def filled? (field? : Char → Option (List Char)) : List Char → Option (List Char)
  | '%' :: c :: rest => do return (← field? c) ++ (← filled? field? rest)
  | ['%'] => none
  | c :: rest => (filled? field? rest).map (c :: ·)
  | [] => some []

-- How far two moments are apart: a sign, years, months, days and a time of the day. Months are
-- stepped over until the order is right; each takes a unit of fuel.
def monthsApart (forward : Bool) (first : Int) (t : TimeOfDay) :
    Nat → Date → Int → Int → Option (Int × Int × Int)
  | 0, _, _, _ => none
  | fuel + 1, d, years, months =>
    let j := d.julian + t.millis
    if if forward then first < j else j < first then
      let (years, months) := if months ≤ 0 then (years - 1, 11) else (years, months - 1)
      let month := if forward then d.month - 1 else d.month + 1
      let d := if month < 1 then { d with year := d.year - 1, month := 12 }
        else if 12 < month then { d with year := d.year + 1, month := 1 }
        else { d with month }
      monthsApart forward first t fuel d years months
    else some (years, months, j)

def difference? (a b : Moment) : Option (List Char) := do
  let a ← (← a.withJulian?).withDateAndTime?
  let b ← (← b.withJulian?).withDateAndTime?
  let first ← a.julian
  let second ← b.julian
  let da ← a.date
  let db ← b.date
  let forward := second ≤ first
  let years := if forward then da.year - db.year else db.year - da.year
  let months := if forward then da.month - db.month else db.month - da.month
  let (years, months) := if months < 0 then (years - 1, months + 12) else (years, months)
  let start := { db with year := da.year, month := da.month }
  let (years, months, j) ← monthsApart forward first (← b.time) 4 start years months
  let rest := (if forward then first - j else j - first) + 148699540800000
  let d := Date.ofJulian rest
  let t := TimeOfDay.ofJulian rest
  return (if forward then '+' else '-') :: signedDigits 4 years ++ '-' :: signedDigits 2 months ++
    '-' :: inDigits 2 (d.day - 1) ++ ' ' :: t.minuteText ++ ':' :: t.secondText

end TableForge.Calendar
