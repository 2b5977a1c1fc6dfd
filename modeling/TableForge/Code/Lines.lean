namespace TableForge.Code

-- A definition behind a blank line: the lines of its head and its body in braces.
def block (head body : List String) : List String :=
  "" :: head ++ ["\x7b"] ++ body ++ ["\x7d"]

-- Lines of a list: a comma behind each but the last.
def commaSeparated : List String → List String
  | [] => []
  | [line] => [line]
  | line :: rest => (line ++ ",") :: commaSeparated rest

end TableForge.Code
