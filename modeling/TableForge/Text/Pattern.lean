namespace TableForge.Text

-- A part of a pattern. Characters are given by their numbers.
inductive PatternPart where
  -- any number of characters
  | anything
  -- any one character
  | anyOne
  -- one character; the case of ASCII letters does not count where `folded` tells so
  | exactly (c : Nat) (folded : Bool)
  -- one character that is in one of the ranges, or in none of them
  | member (ranges : List (Nat × Nat)) (inside : Bool)
  -- no text at all
  | nothing
  deriving DecidableEq, Repr

namespace PatternPart

def fold (c : Nat) : Nat := if 0x41 ≤ c && c ≤ 0x5A then c + 32 else c

def fits : PatternPart → Nat → Bool
  | anything, _ | nothing, _ => false
  | anyOne, _ => true
  | exactly p folded, c => p = c || (folded && fold p = fold c)
  | member ranges inside, c => (ranges.any fun (low, high) => low ≤ c && c ≤ high) == inside

end PatternPart

-- How a text fits a pattern. A text that is used up behind a part for any text cannot fit from
-- a later place on either.
inductive Fit where
  | fits
  | fails
  | exhausted
  deriving DecidableEq, Repr

-- The first of the tails of a text for which the rest of a pattern does not fail.
def searchTails (rest : List Nat → Fit) : List Nat → Fit
  | [] => if rest [] = .fits then .fits else .exhausted
  | c :: s =>
    match rest (c :: s) with
    | .fails => searchTails rest s
    | found => found

def fitOf : List PatternPart → List Nat → Fit
  | [], s => if s.isEmpty then .fits else .fails
  | .anything :: pattern, s => searchTails (fitOf pattern) s
  | p :: pattern, c :: s => if p.fits c then fitOf pattern s else .fails
  | _ :: _, [] => .fails

def fits (pattern : List PatternPart) (s : List Nat) : Bool := fitOf pattern s = .fits

-- A pattern in which `%` stands for any text, `_` for any one character, and every other
-- character for itself without regard to the case of ASCII letters, as does any character behind
-- the escaping one.
def likeParts (escape : Option Nat) : List Nat → List PatternPart
  | [] => []
  | c :: rest =>
    if escape = some c then
      match rest with
      | [] => [.nothing]
      | d :: rest => .exactly d true :: likeParts escape rest
    else
      let part := if c = '%'.toNat then PatternPart.anything
        else if c = '_'.toNat then .anyOne
        else .exactly c true
      part :: likeParts escape rest

-- The ranges of characters up to a closing bracket, and what stands behind it. A range begins
-- with the character before the hyphen, unless that ends a range itself.
def rangesOf (before : Option Nat) : List Nat → Option (List (Nat × Nat) × List Nat)
  | [] => none
  | c :: rest =>
    if c = ']'.toNat then some ([], rest)
    else
      match before, rest with
      | some low, high :: more =>
        if c = '-'.toNat && high ≠ ']'.toNat then
          (rangesOf none more).map fun (ranges, rest) => ((low, high) :: ranges, rest)
        else (rangesOf (some c) (high :: more)).map fun (ranges, rest) => ((c, c) :: ranges, rest)
      | _, rest => (rangesOf (some c) rest).map fun (ranges, rest) => ((c, c) :: ranges, rest)

-- A set of characters behind its opening bracket, and what follows it. A closing bracket that
-- comes first belongs to the set.
def setOf (s : List Nat) : Option (PatternPart × List Nat) :=
  let isOutside := s.head? = some '^'.toNat
  let s := if isOutside then s.tail else s
  let bracket := ']'.toNat
  let startsClosed := s.head? = some bracket
  (rangesOf none (if startsClosed then s.tail else s)).map fun (ranges, rest) =>
    (.member (if startsClosed then (bracket, bracket) :: ranges else ranges) (!isOutside), rest)

-- A pattern in which `*` stands for any text, `?` for any one character, brackets for one of
-- several characters, and every other character for itself. Each part takes a unit of fuel.
def globParts : Nat → List Nat → List PatternPart
  | 0, _ | _, [] => []
  | fuel + 1, c :: rest =>
    if c = '*'.toNat then .anything :: globParts fuel rest
    else if c = '?'.toNat then .anyOne :: globParts fuel rest
    else if c = '['.toNat then
      match setOf rest with
      | none => [.nothing]
      | some (set, rest) => set :: globParts fuel rest
    else .exactly c false :: globParts fuel rest

def like (pattern s : String) : Bool :=
  fits (likeParts none (pattern.toList.map Char.toNat)) (s.toList.map Char.toNat)

end TableForge.Text
