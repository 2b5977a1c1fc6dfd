namespace TableForge.Text

def unlines : List String → String
  | [] => ""
  | line :: rest => line ++ "\n" ++ unlines rest

end TableForge.Text
