import TableForge.Code.Member

namespace TableForge.Code.DataImplementation

def rowAssignments (fields : KeyedFields) : List String :=
  fields.declared.map fun f => "    row." ++ f.name ++ " = " ++ f.name ++ ";"

def toRow (t : Table) : List String :=
  block ["// Convert " ++ t.dataClass ++ " to " ++ t.rowClass,
      t.rowClass ++ " " ++ t.dataClass ++ "::to_row() const"]
    (["    " ++ t.rowClass ++ " row;", ""] ++ rowAssignments t.fields ++ ["", "    return row;"])

def dataAssignments (fields : KeyedFields) : List String :=
  fields.declared.map fun f =>
    "    " ++ f.name ++ " = row." ++ f.name ++ "; // " ++ f.kind.memberType

def fromRow (t : Table) : List String :=
  block ["// Convert " ++ t.rowClass ++ " to " ++ t.dataClass,
      t.dataClass ++ "& " ++ t.dataClass ++ "::from_row(const " ++ t.rowClass ++ "& row)"]
    (dataAssignments t.fields ++ ["", "    return *this;"])

-- The implementation of a sample data class: conversions to and from the row.
def lines (t : Table) : List String :=
  ["", "// PLEASE EDIT!",
    "// This is only sample code re-used from \"table/" ++ t.tableClass ++ ".cpp\".", "",
    "#include \"" ++ t.dataClass ++ ".h\""] ++
  Member.defaultConstructor t.dataClass t.fields ++ toRow t ++ fromRow t ++
  Member.assignmentOperator t.dataClass t.fields ++ Member.equality t.dataClass t.fields

end TableForge.Code.DataImplementation
