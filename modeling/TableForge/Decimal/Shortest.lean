import TableForge.Decimal.Binary64

namespace TableForge.Binary64

-- The reals that round to a double: `low` and `high` are its ends and `mid` the double itself,
-- all three in units of `num / den`. The ends belong to it when the significand is even.
structure Cell where
  low : Nat
  mid : Nat
  high : Nat
  num : Nat
  den : Nat
  closed : Bool

-- The cell of a finite double. Below a power of two the neighbour is half as far away as above.
def cell (x : Binary64) : Cell :=
  let m := x.significand
  { low := if m = exponentWeight && 0 < x.scale then 4 * m - 1 else 4 * m - 2
    mid := 4 * m
    high := 4 * m + 2
    num := twoTo (x.scale - 1074)
    den := 4 * twoTo (1074 - x.scale)
    closed := m % 2 = 0 }

def Cell.contains (c : Cell) (k : Nat) (p : Int) : Bool :=
  let point := k * tenTo p.toNat * c.den
  let unit := c.num * tenTo (-p).toNat
  if c.closed then c.low * unit ≤ point && point ≤ c.high * unit
  else c.low * unit < point && point < c.high * unit

-- The multiple of `10 ^ p` in the cell that is nearest to its middle, of two the larger one.
def Cell.nearest? (c : Cell) (p : Int) : Option Nat :=
  let step := tenTo p.toNat * c.den
  let mid := c.mid * (c.num * tenTo (-p).toNat)
  let below := mid / step
  let above := below + 1
  if c.contains above p && (!c.contains below p || above * step - mid ≤ mid - below * step) then
    some above
  else if c.contains below p then some below
  else none

-- The first of the powers `10 ^ p`, `10 ^ (p - 1)`, .. with a multiple in the cell, and the
-- nearest such multiple.
def Cell.search (c : Cell) : Nat → Int → Nat × Int
  | 0, p => (0, p)
  | fuel + 1, p =>
    match c.nearest? p with
    | some k => (k, p)
    | none => c.search fuel (p - 1)

-- The decimal with the fewest digits that reads back as the double: `k` and `p` of `k * 10 ^ p`.
-- No double reaches `10 ^ 309`, and every finite double is a multiple of `10 ^ (-1074)`.
def shortest (x : Binary64) : Nat × Int := x.cell.search (309 + 1074 + 1) 309

end TableForge.Binary64
