import TableForge.Code.Member

namespace TableForge.Code.DataInterface

def remarks (t : Table) : List String :=
  ["", "// PLEASE EDIT!", "//",
    "// This is only sample code re-used from \"table/" ++ t.tableClass ++ ".h\".", "//",
    "// The data structure can be refined by:",
    "// * using more user-friendly field names",
    "// * using stronger field types",
    "// * adding enumerations for fields with limited choices",
    "// * demultiplexing composite values in database columns"]

def dataClass (t : Table) : List String :=
  ["", "// User-friendly representation of a record in table " ++ t.name ++ ".",
    "struct " ++ t.dataClass, "\x7b"] ++
  Member.declarations t.fields ++ Member.constructors t.dataClass ++
  Member.keyAccess t.fields.key.name ++
  ["    " ++ t.rowClass ++ " to_row() const;",
    "    " ++ t.dataClass ++ "& from_row(const " ++ t.rowClass ++ "& row);"] ++
  Member.conversions t.dataClass ++ Member.copies t.dataClass ++
  Member.sorters t.dataClass t.fields ++ ["\x7d;"]

def delegate (result owner signature call : String) : List String :=
  block ["inline " ++ result ++ " " ++ owner ++ "::" ++ signature] ["    " ++ call]

def delegates (t : Table) : List String :=
  let owner := t.dataClass
  Member.resultConstructor owner ++
  delegate "void" owner "to_insert_stmt(wxSQLite3Statement& stmt, int64 id) const"
    "to_row().to_insert_stmt(stmt, id);" ++
  delegate "void" owner "to_update_stmt(wxSQLite3Statement& stmt) const"
    "to_row().to_update_stmt(stmt);" ++
  delegate (owner ++ "&") owner "from_select_result(wxSQLite3ResultSet& q)"
    ("return from_row(" ++ t.rowClass ++ "().from_select_result(q));") ++
  delegate "wxString" owner "to_json() const" "return to_row().to_json();" ++
  delegate "void" owner "as_json(PrettyWriter<StringBuffer>& json_writer) const"
    "to_row().as_json(json_writer);" ++
  delegate "row_t" owner "to_html_row() const" "return to_row().to_html_row();" ++
  delegate "void" owner "to_html_template(html_template& t) const"
    "to_row().to_html_template(t);" ++
  Member.cloneFrom owner

def lines (t : Table) : List String :=
  remarks t ++
  ["", "#pragma once", "", "#include \"table/_TableBase.h\"",
    "#include \"table/" ++ t.tableClass ++ ".h\""] ++
  dataClass t ++ delegates t

end TableForge.Code.DataInterface
