import TableForge.Text.Blank
import TableForge.Text.Upper

namespace TableForge

inductive ColumnType where
  | text
  | numeric
  | integer
  | real
  | blob
  | date
  deriving DecidableEq, Repr

inductive ValueKind where
  | text
  | real
  | integer
  | date
  deriving DecidableEq, Repr

namespace ColumnType

def all : List ColumnType := [.text, .numeric, .integer, .real, .blob, .date]

def name : ColumnType → String
  | .text => "TEXT"
  | .numeric => "NUMERIC"
  | .integer => "INTEGER"
  | .real => "REAL"
  | .blob => "BLOB"
  | .date => "DATE"

-- The type that a declaration names, without regard to case and to white space around it.
def ofDeclared? (declared : String) : Option ColumnType :=
  let wanted := Text.upper (Text.trim declared.toList)
  all.find? fun t => t.name.toList == wanted

def kind : ColumnType → ValueKind
  | .text | .blob => .text
  | .numeric | .real => .real
  | .integer => .integer
  | .date => .date

end ColumnType

namespace ValueKind

def memberType : ValueKind → String
  | .text => "wxString"
  | .real => "double"
  | .integer => "int64"
  | .date => "wxDateTime"

def accessor : ValueKind → String
  | .text => "GetString"
  | .real => "GetDouble"
  | .integer => "GetInt64"
  | .date => "GetDateTime"

end ValueKind

end TableForge
