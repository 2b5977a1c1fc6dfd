import TableForge.Decimal.Shortest

namespace TableForge.Binary64

-- `k * 10 ^ p` written with as many places after the point as `p` asks for.
def positional (k : Nat) (p : Int) : List Char :=
  let digits := Nat.toDigits 10 k
  if 0 ≤ p then digits ++ List.replicate p.toNat '0'
  else
    let places := (-p).toNat
    let padded := List.replicate (places + 1 - digits.length) '0' ++ digits
    padded.take (padded.length - places) ++ '.' :: padded.drop (padded.length - places)

-- A real in decimal notation without an exponent: a whole number exactly and with one place,
-- any other number with the fewest digits that read back as it.
def render (x : Binary64) : List Char :=
  if x.isNaN then ['N', 'a', 'N']
  else
    let size :=
      if !x.isFinite then ['i', 'n', 'f']
      else if x.isIntegral then positional (x.numerator / x.denominator * 10) (-1)
      else
        let (k, p) := x.shortest
        positional k p
    if x.negative then '-' :: size else size

def text (x : Binary64) : String := String.ofList x.render

end TableForge.Binary64
