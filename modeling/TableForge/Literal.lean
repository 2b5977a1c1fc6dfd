import TableForge.Code.StringLiteral
import TableForge.Marker
import TableForge.Text.Quoted
import TableForge.Value

namespace TableForge

-- A seed value as the generated code carries it: a token of the statement as it stands, a text
-- to be shown in the user's language, or a text with characters outside ASCII.
inductive Literal where
  | plain (token : String)
  | localized (text : String)
  | wide (text : String)
  deriving DecidableEq, Repr

namespace Literal

-- The literal for a text. Outside ASCII it is wide and loses one leading marker; a marker with
-- text after it asks for the user's language; any other text is quoted.
def ofText (s : String) : Literal :=
  let chars := s.toList
  if !Text.allAscii s then .wide (String.ofList (Marker.dropLeading chars))
  else
    match Text.dropHead? Marker.marker chars with
    | some (c :: rest) => .localized (String.ofList (c :: rest))
    | _ => .plain (Text.Quoted.quoteText s)

-- The literal for a seed value; numbers are quoted as well.
def ofValue : Value → Literal
  | .null => .plain "NULL"
  | .int i => .plain (Text.Quoted.quoteText (toString i))
  | .real x => .plain (Text.Quoted.quoteText x.text)
  | .text s => ofText s

def isWrapped : Literal → Bool
  | .plain _ => false
  | _ => true

-- The expression that gives a wrapped literal its text. It lands between single quotes; those
-- of wide text are doubled here.
def argument? : Literal → Option String
  | .plain _ => none
  | .localized s => some ("_(" ++ Code.StringLiteral.render s ++ ")")
  | .wide s =>
    some ("L" ++ Code.StringLiteral.render (String.ofList (Text.double '\'' s.toList)))

end Literal

end TableForge
