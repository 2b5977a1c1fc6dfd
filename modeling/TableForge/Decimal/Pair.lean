import TableForge.Decimal.Arithmetic

namespace TableForge

-- A number as the sum of two doubles, the second one far smaller than the first.
structure DoublePair where
  high : Binary64
  low : Binary64

namespace DoublePair

def leading (x : Binary64) : Binary64 := ⟨x.bits &&& 0xFFFFFFFFFC000000⟩

-- The pair multiplied by another one, up to a rest that the second double cannot hold.
def mul (x y : DoublePair) : DoublePair :=
  let xh := leading x.high
  let xt := x.high.sub xh
  let yh := leading y.high
  let yt := y.high.sub yh
  let p := xh.mul yh
  let q := (xh.mul yt).add (xt.mul yh)
  let c := p.add q
  let rest := ((p.sub c).add q).add (xt.mul yt)
  let rest := ((x.high.mul y.low).add (x.low.mul y.high)).add rest
  let high := c.add rest
  ⟨high, (c.sub high).add rest⟩

def mulTimes (y : DoublePair) : Nat → DoublePair → DoublePair
  | 0, x => x
  | n + 1, x => mulTimes y n (x.mul y)

-- The pair multiplied as long as its first double satisfies `p`, and how often that was. There
-- are at most `fuel` rounds.
def mulWhile (p : Binary64 → Bool) (y : DoublePair) : Nat → DoublePair → Nat × DoublePair
  | 0, x => (0, x)
  | fuel + 1, x =>
    if p x.high then
      let (n, x) := mulWhile p y fuel (x.mul y)
      (n + 1, x)
    else (0, x)

-- Powers of ten: `10 ^ 100`, `10 ^ 10` and `10`, and their inverses.

def hundredTens : DoublePair := ⟨⟨0x54B249AD2594C37D⟩, ⟨0xD134F4D87B3B31F4⟩⟩

def tenTens : DoublePair := ⟨⟨0x4202A05F20000000⟩, ⟨0⟩⟩

def ten : DoublePair := ⟨⟨0x4024000000000000⟩, ⟨0⟩⟩

def hundredTenths : DoublePair := ⟨⟨0x2B2BFF2EE48E0530⟩, ⟨0xA7B42A68781D46C4⟩⟩

def tenTenths : DoublePair := ⟨⟨0x3DDB7CDFD9D7BDBB⟩, ⟨0xBA720A5465DF8D2C⟩⟩

def tenth : DoublePair := ⟨⟨0x3FB999999999999A⟩, ⟨0xBC5999999999999A⟩⟩

def mulPower (x : DoublePair) (e : Int) : DoublePair :=
  let n := e.natAbs
  let (hundred, many, one) :=
    if 0 ≤ e then (hundredTens, tenTens, ten) else (hundredTenths, tenTenths, tenth)
  one.mulTimes (n % 10) (many.mulTimes (n % 100 / 10) (hundred.mulTimes (n / 100) x))

def ofNat (n : Nat) : DoublePair :=
  let high := Binary64.ofInt n
  -- the next double would leave the range
  if high.orderKey ≤ 0x43EFFFFFFFFFFFFF then ⟨high, Binary64.ofInt ((n : Int) - high.truncate)⟩
  else ⟨high, .zero false⟩

def floor (x : DoublePair) : Nat := (x.high.truncate + x.low.truncate).toNat

end DoublePair

end TableForge
