import TableForge.Text.Ascii

namespace TableForge.Marker

def marker : List Char := ['_', 't', 'r', '_']

def occursIn : List Char → Bool
  | [] => false
  | c :: rest => marker.isPrefixOf (c :: rest) || occursIn rest

def removePass : List Char → List Char
  | '_' :: 't' :: 'r' :: '_' :: rest => removePass rest
  | c :: rest => c :: removePass rest
  | [] => []

def removePasses : Nat → List Char → List Char
  | 0, s => s
  | n + 1, s => if occursIn s then removePasses n (removePass s) else s

-- The text without any marker, also none that leaving out another one brings together.
-- A pass over a text with a marker shortens it, so its length bounds the number of passes.
def clean (s : List Char) : List Char := removePasses s.length s

def dropLeading (s : List Char) : List Char := (Text.dropHead? marker s).getD s

def cleanText (s : String) : String := String.ofList (clean s.toList)

end TableForge.Marker
