import TableForge.Literal
import TableForge.Text.Replace

namespace TableForge

-- The statements that the generated code runs on its table.
inductive Query where
  | create (definition : String)
  | drop (table : String)
  | insert (table : String) (columns : List String)
  | update (table : String) (columns : List String) (key : String)
  | delete (table : String) (key : String)
  | select (table : String) (columns : List String)
  deriving DecidableEq, Repr

namespace Query

-- What an update sets. Without other columns it sets the key to itself, so that the key stays
-- the only parameter.
def assignments (columns : List String) (key : String) : String :=
  match columns with
  | [] => key ++ " = " ++ key
  | _ => Text.join ", " (columns.map (· ++ " = ?"))

def text : Query → String
  | .create definition => definition
  | .drop table => "DROP TABLE IF EXISTS " ++ table
  | .insert table columns =>
    "INSERT INTO " ++ table ++ "(" ++ Text.join ", " columns ++ ") VALUES(" ++
      Text.join ", " (columns.map fun _ => "?") ++ ")"
  | .update table columns key =>
    "UPDATE " ++ table ++ " SET " ++ assignments columns key ++ " WHERE " ++ key ++ " = ?"
  | .delete table key => "DELETE FROM " ++ table ++ " WHERE " ++ key ++ " = ?"
  | .select table columns => "SELECT " ++ Text.join ", " columns ++ " FROM " ++ table

end Query

structure SeedInsert where
  table : String
  literals : List Literal
  deriving DecidableEq, Repr

namespace SeedInsert

def isFormatted (s : SeedInsert) : Bool := s.literals.any Literal.isWrapped

-- A literal in the list of values. A wrapped one is a slot of the format; in a format a
-- percent sign of a plain token is written twice.
def slot (formatted : Bool) : Literal → String
  | .plain token => if formatted then String.ofList (Text.double '%' token.toList) else token
  | _ => "'%s'"

def valueList (s : SeedInsert) : String :=
  Text.join ", " (s.literals.map (slot s.isFormatted))

def text (s : SeedInsert) : String :=
  "INSERT INTO " ++ s.table ++ " VALUES (" ++ s.valueList ++ ")"

def arguments (s : SeedInsert) : List String := s.literals.filterMap Literal.argument?

end SeedInsert

end TableForge
