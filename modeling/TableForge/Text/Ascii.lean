namespace TableForge.Text

def isAscii (c : Char) : Bool := c.toNat < 128

def allAscii (s : String) : Bool := s.toList.all isAscii

def sameLetters (s t : String) : Bool :=
  s.toList.map Char.toLower == t.toList.map Char.toLower

def dropHead? : List Char → List Char → Option (List Char)
  | [], s => some s
  | _ :: _, [] => none
  | h :: head, c :: s => if h = c then dropHead? head s else none

theorem dropHead?_eq_some_iff {head s rest : List Char} :
    dropHead? head s = some rest ↔ s = head ++ rest := by
  induction head generalizing s with
  | nil => simp [dropHead?]
  | cons h head ih =>
    cases s with
    | nil => simp [dropHead?]
    | cons c s =>
      by_cases hc : h = c
      · simp [dropHead?, hc, ih]
      · simp [dropHead?, hc, Ne.symm hc]

end TableForge.Text
