namespace TableForge.Toml

-- How a table of a document came to be, which decides how it may be extended.
inductive Origin where
  -- only named on the way to a table inside it
  | implied
  -- by a header of its own
  | headed
  -- by keys with dots
  | dotted
  -- in braces, complete where it stands
  | closed
  deriving DecidableEq, Repr

-- A value of a document. Numbers, truth values and points in time are not told apart.
inductive Node where
  | text (s : String)
  | scalar
  | array (items : List Node)
  -- tables with a common header in double brackets, in their order
  | tables (items : List (List (String × Node)))
  | table (origin : Origin) (entries : List (String × Node))

abbrev Entries := List (String × Node)

namespace Entries

-- The entries with the value under `key` replaced by what `f` makes of it. A key that is not
-- there gets its value at the end.
def update (key : String) (f : Option Node → Option Node) : Entries → Option Entries
  | [] => (f none).map fun node => [(key, node)]
  | (k, node) :: rest =>
    if k = key then (f (some node)).map fun node => (k, node) :: rest
    else (update key f rest).map ((k, node) :: ·)

-- A value put under a key with dots. No part of the key may lead through a table that was not
-- made by such a key, and the last part must be new.
def insert : List String → Node → Entries → Option Entries
  | [], _, _ => none
  | [key], node, entries => entries.update key fun
    | none => some node
    | some _ => none
  | key :: path, node, entries => entries.update key fun
    | none => (insert path node []).map (.table .dotted)
    | some (.table .dotted inner) => (insert path node inner).map (.table .dotted)
    | some _ => none

def insertAll (lines : List (List String × Node)) (entries : Entries) : Option Entries :=
  lines.foldlM (fun es (path, node) => insert path node es) entries

-- The table that a header names, with the lines below it. A header in double brackets adds a
-- table; any other header must name a table that is new or only implied so far.
def define (several : Bool) (lines : List (List String × Node)) :
    List String → Entries → Option Entries
  | [], _ => none
  | [key], entries => entries.update key fun
    | none =>
      (insertAll lines []).map fun new => if several then .tables [new] else .table .headed new
    | some (.table .implied inner) =>
      if several then none else (insertAll lines inner).map (.table .headed)
    | some (.tables items) =>
      if several then (insertAll lines []).map fun new => .tables (items ++ [new]) else none
    | some _ => none
  | key :: path, entries => entries.update key fun
    | none => (define several lines path []).map (.table .implied)
    | some (.table .closed _) => none
    | some (.table origin inner) => (define several lines path inner).map (.table origin)
    | some (.tables items) =>
      match items.getLast? with
      | none => none
      | some last =>
        (define several lines path last).map fun last => .tables (items.dropLast ++ [last])
    | some _ => none

end Entries

end TableForge.Toml
