import TableForge.Index
import TableForge.Value

namespace TableForge

structure Column where
  ordinal : Nat
  name : String
  declared : String
  notNull : Bool
  isKey : Bool
  deriving DecidableEq, Repr

-- What can be asked about a loaded schema; each question may fail.
structure Catalog where
  -- tables and their definitions, in the order of their names
  tables : Except Error (List (String × String))
  -- columns in the order of the declaration
  columns : String → Except Error (List Column)
  -- declared indices in the order of their names
  indices : String → Except Error (List Index)
  -- rows in storage order
  rows : String → Except Error (List Row)

end TableForge
