import TableForge.Function.Number

-- Texts made from a format with directives, each of which takes a value.
namespace TableForge.Function

structure Directive where
  -- spaces stand behind the value
  left : Bool := false
  -- the sign of a number that is not negative
  sign : Option Char := none
  alternate : Bool := false
  -- counts are in characters, and reals have more digits
  full : Bool := false
  zeros : Bool := false
  grouped : Bool := false
  width : Nat := 0
  precision : Option Nat := none

namespace Directive

def small (i : Int) : Int := Int.bmod i 0x100000000

def sizeOf (n : Nat) : Nat := n % 0x80000000

def withWidth (d : Directive) (i : Int) : Directive :=
  let i := small i
  if i < 0 then { d with left := true, width := if -0x7FFFFFFF ≤ i then i.natAbs else 0 }
  else { d with width := i.toNat }

def withPrecision (d : Directive) (i : Int) : Directive :=
  let i := small i
  { d with precision := if -0x7FFFFFFF ≤ i then some i.natAbs else none }

-- A directive as it is read: what it wants, its letter, and the format and the values behind it.
abbrev Reading := Directive × Char × List Char × List Datum

def handedInt (ds : List Datum) : Int := (ds.head?.map intOf).getD 0

def letter (d : Directive) (ds : List Datum) : List Char → Option Reading
  | 'l' :: 'l' :: c :: rest | 'l' :: c :: rest => if c = 'l' then none else some (d, c, rest, ds)
  | ['l'] | [] => none
  | c :: rest => some (d, c, rest, ds)

def precise (d : Directive) (ds : List Datum) : List Char → Option Reading
  | '*' :: rest => letter (d.withPrecision (handedInt ds)) ds.tail rest
  | s =>
    let digits := s.takeWhile Char.isDigit
    letter { d with precision := some (sizeOf (Numeral.valueOf 0 digits)) } ds
      (s.dropWhile Char.isDigit)

def behindWidth (d : Directive) (ds : List Datum) : List Char → Option Reading
  | '.' :: rest => precise d ds rest
  | s => letter d ds s

def read (d : Directive) (ds : List Datum) : List Char → Option Reading
  | '-' :: rest => read { d with left := true } ds rest
  | '+' :: rest => read { d with sign := some '+' } ds rest
  | ' ' :: rest => read { d with sign := some ' ' } ds rest
  | '#' :: rest => read { d with alternate := true } ds rest
  | '!' :: rest => read { d with full := true } ds rest
  | '0' :: rest => read { d with zeros := true } ds rest
  | ',' :: rest => read { d with grouped := true } ds rest
  | '*' :: rest => behindWidth (d.withWidth (handedInt ds)) ds.tail rest
  | '.' :: rest => precise d ds rest
  | s =>
    if s.head?.any Char.isDigit then
      behindWidth { d with width := sizeOf (Numeral.valueOf 0 (s.takeWhile Char.isDigit)) } ds
        (s.dropWhile Char.isDigit)
    else letter d ds s

def pad (d : Directive) (size : Nat) (s : List UInt8) : List UInt8 :=
  let spaces := List.replicate (d.width - size) 0x20
  if d.left then s ++ spaces else spaces ++ s

def padded (d : Directive) (s : List UInt8) : List UInt8 := d.pad s.length s

def groupDigits (s : List Char) : List Char :=
  let step (c : Char) (out : List Char × Nat) : List Char × Nat :=
    (if 0 < out.2 && out.2 % 3 = 0 then c :: ',' :: out.1 else c :: out.1, out.2 + 1)
  (s.foldr step ([], 0)).1

def ordinalEnd (n : Nat) : List Char :=
  if n / 10 % 10 = 1 then ['t', 'h']
  else
    match n % 10 with
    | 1 => ['s', 't']
    | 2 => ['n', 'd']
    | 3 => ['r', 'd']
    | _ => ['t', 'h']

-- An integer with its sign; `behind` follows its digits and `before` precedes them.
def number (d : Directive) (sign : Option Char) (digits before behind : List Char) : List UInt8 :=
  let s := digits ++ behind
  let wanted := d.precision.getD 0
  let wanted := if d.zeros then max wanted (d.width - sign.toList.length) else wanted
  let s := List.replicate (wanted - s.length) '0' ++ s
  let s := if d.grouped then groupDigits s else s
  d.padded (Text.Utf8.encode (String.ofList (before ++ sign.toList ++ s)))

def signed (d : Directive) (i : Int) (ordinal : Bool) : List UInt8 :=
  let n := i.natAbs
  let d := if ordinal then { d with grouped := false } else d
  d.number (if i < 0 then some '-' else d.sign) (Nat.toDigits 10 n) []
    (if ordinal then ordinalEnd n else [])

-- The bits of an integer as a number in a base, with a mark for the base if that is wanted.
def unsigned (d : Directive) (i : Int) (base : Nat) (upper : Bool) (mark : List Char) :
    List UInt8 :=
  let n := (i % Numeral.wordSize).toNat
  let digits := (Nat.toDigits base n).map fun c => if upper then c.toUpper else c
  let d := if base = 10 then d else { d with grouped := false }
  d.number none digits (if d.alternate && n ≠ 0 then mark else []) []

def real (d : Directive) (form : RealStyle.Form) (mark : Char) (x : Binary64) : List UInt8 :=
  let style : RealStyle := {
    form
    precision := d.precision.getD 6
    sign := d.sign
    alternate := d.alternate
    full := d.full
    grouped := d.grouped
    zeroWidth := if d.zeros then some (if d.left then 0 else d.width) else none
    mark }
  d.padded (Text.Utf8.encode (String.ofList (x.printed style)))

-- How much room a text takes: its characters if these count, otherwise its bytes.
def room (d : Directive) (s : List UInt8) : Nat :=
  if d.full then (s.filter (!Text.Utf8.isContinuation ·)).length else s.length

def cut (d : Directive) (s : List UInt8) : List UInt8 :=
  match d.precision with
  | none => s
  | some n => if d.full then ((Text.Utf8.characters s).take n).flatten else s.take n

def text (d : Directive) (v : Datum) : List UInt8 :=
  let s := d.cut (Text.Utf8.untilZero ((v.bytes?).getD []))
  d.pad (d.room s) s

-- The first character of a text, as often as the precision says; without one the zero byte.
def character (d : Directive) (v : Datum) : List UInt8 :=
  let c := match Text.Utf8.characters ((v.bytes?).getD []) with
    | [] => [0]
    | c :: _ => if c.head?.any (0xC0 ≤ ·) then c.take 4 else c
  let count := max (d.precision.getD 1) 1
  d.pad count (List.replicate count c).flatten

def escaped (d : Directive) (quote : UInt8) (enclosed : Bool) (v : Datum) : List UInt8 :=
  let doubled (s : List UInt8) := s.flatMap fun b => if b = quote then [b, b] else [b]
  let s := match v.bytes? with
    | none => d.cut (Text.Utf8.encode (if enclosed then "NULL" else "(NULL)"))
    | some s =>
      let s := doubled (d.cut (Text.Utf8.untilZero s))
      if enclosed then quote :: s ++ [quote] else s
  d.pad (d.room s) s

-- What a directive writes for the next value; none for an unknown letter. The answer tells also
-- whether the value is used up.
def write (d : Directive) (letter : Char) (v : Datum) : Option (List UInt8 × Bool) :=
  let i := intOf v
  let x := realOf v
  let taken (s : List UInt8) : Option (List UInt8 × Bool) := some (s, true)
  match letter with
  | 'd' | 'i' => taken (d.signed i false)
  | 'r' => taken (d.signed i true)
  | 'u' => taken (d.unsigned i 10 false [])
  | 'o' => taken (d.unsigned i 8 false ['0'])
  | 'x' => taken (d.unsigned i 16 false ['0', 'x'])
  | 'X' => taken (d.unsigned i 16 true ['0', 'X'])
  | 'p' => taken (d.unsigned i 16 true ['0', 'x'])
  | 'f' => taken (d.real .fixed 'e' x)
  | 'e' => taken (d.real .exponential 'e' x)
  | 'E' => taken (d.real .exponential 'E' x)
  | 'g' => taken (d.real .general 'e' x)
  | 'G' => taken (d.real .general 'E' x)
  | 's' | 'z' => taken (d.text v)
  | 'c' => taken (d.character v)
  | 'q' => taken (d.escaped 0x27 false v)
  | 'Q' => taken (d.escaped 0x27 true v)
  | 'w' => taken (d.escaped 0x22 false v)
  | 'n' => some ([], false)
  | '%' => some (d.padded [0x25], false)
  | _ => none

end Directive

-- The text that a format makes of values. Formatting ends at a directive that cannot be read;
-- there is no text at all if nothing was written before. Each character takes a unit of fuel.
def formatted : Nat → List Char → List Datum → Option (List UInt8)
  | 0, _, _ => none
  | _ + 1, [], _ => none
  | _ + 1, ['%'], _ => some [0x25]
  | fuel + 1, '%' :: rest, ds => do
    let (d, letter, rest, ds) ← Directive.read {} ds rest
    let (s, taken) ← d.write letter (ds.headD .null)
    return s ++ (formatted fuel rest (if taken then ds.tail else ds)).getD []
  | fuel + 1, c :: rest, ds => some (UInt8.ofNat c.toNat :: (formatted fuel rest ds).getD [])

def format : List Datum → Datum
  | d :: ds => onBytes (fun s =>
      let s := Datum.chars (Text.Utf8.untilZero s)
      (formatted (s.length + 1) s ds).elim .null .text) d
  | [] => .null

def ofFormats : List Function := [
  ofData? "printf" 0 none fun ds => some (format ds),
  ofData? "format" 0 none fun ds => some (format ds)]

end TableForge.Function
