import TableForge.Text.Replace

namespace TableForge.Text.Quoted

-- A quoted literal of a statement: the quote doubled inside, one at each end.
def quote (s : List Char) : List Char := '\'' :: double '\'' s ++ ['\'']

def quoteText (s : String) : String := String.ofList (quote s.toList)

-- The content of a quoted literal after its first quote and the text after its last one.
def readBody : List Char → Option (List Char × List Char)
  | [] => none
  | '\'' :: '\'' :: rest => (readBody rest).map fun (s, after) => ('\'' :: s, after)
  | c :: rest =>
    if c = '\'' then some ([], rest)
    else (readBody rest).map fun (s, after) => (c :: s, after)

end TableForge.Text.Quoted
