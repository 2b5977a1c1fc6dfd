import TableForge.Error
import TableForge.Text.Blank
import TableForge.Text.Upper

namespace TableForge

structure Index where
  name : String
  definition : String
  deriving DecidableEq, Repr

namespace Index

def isKeyword (word : List Char) : Bool := word.map Char.toUpper == ['I', 'N', 'D', 'E', 'X']

def cutAtKeyword? : Nat → List Char → Option (List Char × List Char)
  | 0, _ => none
  | n + 1, s =>
    let blanks := s.takeWhile Text.isBlank
    let content := s.dropWhile Text.isBlank
    let word := content.takeWhile (!Text.isBlank ·)
    let rest := content.dropWhile (!Text.isBlank ·)
    if isKeyword word then some (blanks ++ word, rest)
    else (cutAtKeyword? n rest).map fun (before, after) => (blanks ++ word ++ before, after)

def guardWords : List (List Char) := [['I', 'F'], ['N', 'O', 'T'], ['E', 'X', 'I', 'S', 'T', 'S']]

def isGuarded (s : List Char) : Bool := ((Text.words s).take 3).map Text.upper == guardWords

-- The definition with the guard behind the keyword INDEX, which must be among its first three
-- words; a definition that has the guard stays as it is.
def guard? (definition : List Char) : Option (List Char) :=
  (cutAtKeyword? 3 definition).map fun (before, after) =>
    if isGuarded after then definition
    else before ++ " IF NOT EXISTS".toList ++ after

def createIfMissing (index : Index) : Except Error String :=
  match guard? index.definition.toList with
  | some text => .ok (String.ofList text)
  | none => .error (.malformedIndex index.name index.definition)

end Index

end TableForge
