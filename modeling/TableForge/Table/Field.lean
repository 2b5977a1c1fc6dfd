import TableForge.Column.Type
import TableForge.Error

namespace TableForge

-- A column of a table with a known type. `ordinal` is its position in a result set.
structure Field where
  ordinal : Nat
  name : String
  type : ColumnType
  nullable : Bool
  deriving DecidableEq, Repr

namespace Field

def kind (f : Field) : ValueKind := f.type.kind

def columnId (f : Field) : String := "COL_ID_" ++ String.ofList (Text.upper f.name.toList)

end Field

-- The fields of a table around its only key field.
structure KeyedFields where
  before : List Field
  key : Field
  after : List Field
  deriving DecidableEq, Repr

namespace KeyedFields

def declared (fields : KeyedFields) : List Field := fields.before ++ fields.key :: fields.after

def others (fields : KeyedFields) : List Field := fields.before ++ fields.after

def keyFirst (fields : KeyedFields) : List Field := fields.key :: fields.others

def keyLast (fields : KeyedFields) : List Field := fields.others ++ [fields.key]

-- Fields of which one is marked as the key. Otherwise the names of all that are marked.
def ofMarked (fields : List (Field × Bool)) : Except (List String) KeyedFields :=
  match fields.dropWhile (!·.2) with
  | [] => .error []
  | (key, _) :: after =>
    if after.any (·.2) then .error ((fields.filter (·.2)).map (·.1.name))
    else .ok ⟨(fields.takeWhile (!·.2)).map (·.1), key, after.map (·.1)⟩

end KeyedFields

end TableForge
