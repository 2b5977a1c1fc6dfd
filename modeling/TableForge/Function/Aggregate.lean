import TableForge.Datum.Arithmetic
import TableForge.Function.Number

-- Functions of the values that several rows have.
namespace TableForge

-- Such a function under its name. It takes at least and at most so many arguments, and makes one
-- value of those of each row in turn; some sets of them it refuses.
structure Aggregate where
  name : String
  least : Nat
  most : Nat
  value? : Collation → List (List Datum) → Option Datum
  -- for those that choose a row: whether the order of the best value so far and that of a row
  -- makes the row the better one
  prefers? : Option (Ordering → Bool) := none

-- A sum of values. As long as all of them are integers so is the sum.
structure Total where
  count : Nat := 0
  exact : Int := 0
  -- the rounded sum and what it lacks, once it is a real
  rounded : Option (Binary64 × Binary64) := none
  -- the integers alone have become too large
  isTooLarge : Bool := false

namespace Total

-- A real added to a rounded sum; what rounding takes away is kept apart.
def addReal (sum : Binary64 × Binary64) (x : Binary64) : Binary64 × Binary64 :=
  let t := sum.1.add x
  let (large, small) := if x.abs.less sum.1.abs then (sum.1, x) else (x, sum.1)
  (t, sum.2.add ((large.sub t).add small))

-- An integer as a real and a small rest, so that both are exact.
def split (i : Int) : Int × Int :=
  if i.natAbs < 0x10000000000000 then (i, 0) else (i - i.tmod 16384, i.tmod 16384)

def addInt (sum : Binary64 × Binary64) (i : Int) : Binary64 × Binary64 :=
  let (large, small) := split i
  let sum := addReal sum (.ofInt large)
  if small = 0 then sum else addReal sum (.ofInt small)

def roundedOf (i : Int) : Binary64 × Binary64 :=
  let (large, small) := split i
  (.ofInt large, .ofInt small)

-- The number that a value adds, a real for a text that is none as a whole.
def summand : Datum → Datum
  | .text s =>
    match Numeral.readAll (Datum.chars s) with
    | some n => n.toDatum
    | none => .real (Function.realOf (.text s))
  | .blob s => .real (Function.realOf (.blob s))
  | d => d

def add (t : Total) (d : Datum) : Total :=
  let next := { t with count := t.count + 1 }
  match summand d, t.rounded with
  | .int i, none =>
    let sum := t.exact + i
    if Numeral.minInt ≤ sum && sum ≤ Numeral.maxInt then { next with exact := sum }
    else { next with rounded := some (addInt (roundedOf t.exact) i), isTooLarge := true }
  | .int i, some sum => { next with rounded := some (addInt sum i) }
  | .real x, none => { next with rounded := some (addReal (roundedOf t.exact) x) }
  | .real x, some sum => { next with rounded := some (addReal sum x), isTooLarge := false }
  | _, _ => t

def ofList (ds : List Datum) : Total := ds.foldl add {}

def real (t : Total) : Binary64 :=
  match t.rounded with
  | none => .ofInt t.exact
  | some (sum, lack) => if lack.isFinite then sum.add lack else sum

-- The sum; there is none of no values. Integers whose sum is none are refused.
def sum? (t : Total) : Option Datum :=
  if t.count = 0 then some .null
  else if t.rounded.isNone then some (.int t.exact)
  else if t.isTooLarge then none
  else some (Datum.ofReal t.real)

def mean (t : Total) : Datum :=
  if t.count = 0 then .null else (t.real.div? (.ofInt t.count)).elim .null Datum.ofReal

end Total

namespace Aggregate

def firsts (rows : List (List Datum)) : List Datum := rows.map (·.headD .null)

def count (rows : List (List Datum)) : Datum :=
  .int (rows.filter fun ds => !ds.any Datum.isNull).length

-- The best of some values, and the position of its row. As long as there is no value every row
-- takes the place of the one before it.
def best (prefers : Ordering → Bool) (c : Collation) (ds : List Datum) : Datum × Nat :=
  ds.zipIdx.foldl (fun (found, chosen) (d, i) =>
    if found.isNull then (d, i)
    else if !d.isNull && prefers (Datum.compare c found d) then (d, i)
    else (found, chosen)) (.null, 0)

def extreme (name : String) (prefers : Ordering → Bool) : Aggregate where
  name
  least := 1
  most := 1
  value? c rows := some (best prefers c (firsts rows)).1
  prefers? := some prefers

def ofTotal (name : String) (value? : Total → Option Datum) : Aggregate where
  name
  least := 1
  most := 1
  value? _ rows := value? (.ofList (firsts rows))

-- The values as one text with separators between them. Each row brings the separator in front of
-- its own value.
def joined (rows : List (List Datum)) : Datum :=
  let parts : List (List UInt8 × List UInt8) := rows.filterMap fun ds => do
    let s ← (ds.headD .null).bytes?
    return (s, (ds.getD 1 (.ofText ",")).bytes?.getD [])
  match parts with
  | [] => .null
  | (s, _) :: rest => .text (s ++ rest.flatMap fun (s, separator) => separator ++ s)

def library : List Aggregate := [
  { name := "count", least := 0, most := 1, value? := fun _ rows => some (count rows) },
  extreme "min" (· == .gt),
  extreme "max" (· == .lt),
  ofTotal "sum" Total.sum?,
  ofTotal "total" fun t => some (Datum.ofReal t.real),
  ofTotal "avg" fun t => some t.mean,
  { name := "group_concat", least := 1, most := 2, value? := fun _ rows => some (joined rows) },
  { name := "string_agg", least := 2, most := 2, value? := fun _ rows => some (joined rows) }]

def find? (name : String) (count : Nat) : Option Aggregate :=
  let name := name.toLower
  library.find? fun a => a.name == name && a.least ≤ count && count ≤ a.most

end Aggregate

end TableForge
