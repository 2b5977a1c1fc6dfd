import TableForge.Text.Word

namespace TableForge.Code.StringLiteral

-- The text brought onto one line. A carriage return is left out. A line feed becomes a blank
-- when the last character kept before it and the character right after it both belong to
-- words, and is left out otherwise.
def foldLines : Option Char → List Char → List Char
  | _, [] => []
  | last, c :: rest =>
    if c = '\r' then foldLines last rest
    else if c = '\n' then
      if last.any Text.isWordChar && rest.head?.any Text.isWordChar then
        ' ' :: foldLines (some ' ') rest
      else foldLines last rest
    else c :: foldLines (some c) rest

def escapeChar (c : Char) : List Char :=
  if c = '"' then ['\\', '"']
  else if c = '\\' then ['\\', '\\']
  else if c = '\t' then ['\\', 't']
  else [c]

def encode (s : List Char) : List Char :=
  '"' :: (foldLines none s).flatMap escapeChar ++ ['"']

def render (s : String) : String := String.ofList (encode s.toList)

-- The content of a string literal after its first quote and the text after its last one.
def readBody : List Char → Option (List Char × List Char)
  | [] => none
  | '\\' :: '"' :: rest => (readBody rest).map fun (s, after) => ('"' :: s, after)
  | '\\' :: '\\' :: rest => (readBody rest).map fun (s, after) => ('\\' :: s, after)
  | '\\' :: 't' :: rest => (readBody rest).map fun (s, after) => ('\t' :: s, after)
  | c :: rest =>
    if c = '"' then some ([], rest)
    else if c = '\\' || c = '\n' || c = '\r' || c = '\t' then none
    else (readBody rest).map fun (s, after) => (c :: s, after)

def decode? : List Char → Option (List Char)
  | '"' :: rest =>
    match readBody rest with
    | some (s, []) => some s
    | _ => none
  | _ => none

end TableForge.Code.StringLiteral
