namespace TableForge.Text

-- Leftmost occurrences of `pattern` that do not overlap become `value`.
-- `skip` counts the characters of the current occurrence that are still to be passed.
def replaceFrom (pattern value : List Char) : Nat → List Char → List Char
  | _, [] => []
  | skip + 1, _ :: rest => replaceFrom pattern value skip rest
  | 0, c :: rest =>
    if pattern.isPrefixOf (c :: rest) then
      value ++ replaceFrom pattern value (pattern.length - 1) rest
    else c :: replaceFrom pattern value 0 rest

def replace (pattern value s : String) : String :=
  String.ofList (replaceFrom pattern.toList value.toList 0 s.toList)

def double (q : Char) (s : List Char) : List Char :=
  s.flatMap fun c => if c = q then [q, q] else [c]

def join (separator : String) : List String → String
  | [] => ""
  | [s] => s
  | s :: rest => s ++ separator ++ join separator rest

end TableForge.Text
