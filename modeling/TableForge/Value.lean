import TableForge.Decimal.Notation
import TableForge.Text.Ascii

namespace TableForge

inductive Value where
  | null
  | int (i : Int)
  | real (x : Binary64)
  | text (s : String)
  deriving DecidableEq, Repr

def Value.asText? : Value → Option String
  | .text s => some s
  | _ => none

-- A row as loaded with the schema: its values under their column names, in column order.
abbrev Row := List (String × Value)

-- The first value under a name, without regard to the case of ASCII letters.
def Row.get? (row : Row) (name : String) : Option Value :=
  (row.find? fun (key, _) => Text.sameLetters key name).map (·.2)

def Row.values (row : Row) : List Value := row.map (·.2)

end TableForge
