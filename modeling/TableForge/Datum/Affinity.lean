import TableForge.Datum.Numeral
import TableForge.Text.Ascii

namespace TableForge

-- What a column makes of the values stored in it.
inductive Affinity where
  | blob
  | text
  | numeric
  | integer
  | real
  deriving DecidableEq, Repr

namespace Affinity

def hasPart (part : List Char) : List Char → Bool
  | [] => part.isEmpty
  | c :: rest => part.isPrefixOf (c :: rest) || hasPart part rest

def ofDeclared (type : String) : Affinity :=
  let s := type.toList.map Char.toLower
  let has (part : String) := hasPart part.toList s
  if has "int" then .integer
  else if has "char" || has "clob" || has "text" then .text
  else if has "blob" then .blob
  else if has "real" || has "floa" || has "doub" then .real
  else .numeric

def isNumeric : Affinity → Bool
  | .numeric | .integer | .real => true
  | .blob | .text => false

def apply : Affinity → Datum → Datum
  | .blob, d => d
  | .text, d => d.toText
  | .numeric, d | .integer, d => d.toNumeric
  | .real, d =>
    match d.toNumeric with
    | .int i => .real (Binary64.ofInt i)
    | d => d

def cast : Affinity → Datum → Datum
  | _, .null => .null
  | .blob, d =>
    match d.toText with
    | .text s => .blob s
    | d => d
  | .text, d =>
    match d.toText with
    | .blob s => .text s
    | d => d
  | .integer, d => (d.toInt?).elim .null .int
  | .real, d => (d.toReal?).elim .null .real
  | .numeric, .text s | .numeric, .blob s => Datum.leadingNumeric s
  | .numeric, d => d

end Affinity

end TableForge
