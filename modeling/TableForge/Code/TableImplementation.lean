import TableForge.Code.Member

namespace TableForge.Code.TableImplementation

open StringLiteral (render)

def columnNames (t : Table) : List String :=
  ["", "// List of column names in database table " ++ t.name ++ ",",
    "// in the order of " ++ t.columnClass ++ "::COL_ID.",
    "const wxArrayString " ++ t.columnClass ++ "::COL_NAME_A = \x7b"] ++
  commaSeparated (t.fields.keyFirst.map fun f => "    \"" ++ f.name ++ "\"") ++
  ["\x7d;", "",
    "const " ++ t.columnClass ++ "::COL_ID " ++ t.columnClass ++ "::PRIMARY_ID = " ++
      t.fields.key.columnId ++ ";",
    "const wxString " ++ t.columnClass ++ "::PRIMARY_NAME = COL_NAME_A[" ++
      t.fields.key.columnId ++ "];"]

-- The values bound to the parameters of an insertion, in their order. The key is bound to the
-- argument `id`.
def boundValues (t : Table) : List String := t.fields.others.map (·.name) ++ ["id"]

def bindCalls : Nat → List String → List String
  | _, [] => []
  | position, value :: rest =>
    ("    stmt.Bind(" ++ toString position ++ ", " ++ value ++ ");") ::
      bindCalls (position + 1) rest

def toInsertStatement (t : Table) : List String :=
  block ["// Bind a Row record to database insert statement.",
      "void " ++ t.rowClass ++ "::to_insert_stmt(wxSQLite3Statement& stmt, int64 id) const"]
    (bindCalls 1 (boundValues t))

def readMember (f : Field) : String :=
  "    " ++ f.name ++ " = q." ++ f.kind.accessor ++ "(" ++ toString f.ordinal ++ ");"

def fromSelectResult (t : Table) : List String :=
  block [t.rowClass ++ "& " ++ t.rowClass ++ "::from_select_result(wxSQLite3ResultSet& q)"]
    (t.fields.declared.map readMember ++ ["", "    return *this;"])

def toJson (t : Table) : List String :=
  block ["// Return the data record as a json string",
      "wxString " ++ t.rowClass ++ "::to_json() const"]
    ["    StringBuffer json_buffer;", "    PrettyWriter<StringBuffer> json_writer(json_buffer);",
      "", "    json_writer.StartObject();", "    as_json(json_writer);",
      "    json_writer.EndObject();", "", "    return json_buffer.GetString();"]

def jsonPair (f : Field) : List String :=
  ["    json_writer.Key(\"" ++ f.name ++ "\");", "    " ++ Member.jsonCall f]

def jsonPairs : List Field → List String
  | [] => []
  | [f] => jsonPair f
  | f :: rest => jsonPair f ++ [""] ++ jsonPairs rest

def asJson (t : Table) : List String :=
  block ["// Add the field data as json key:value pairs",
      "void " ++ t.rowClass ++ "::as_json(PrettyWriter<StringBuffer>& json_writer) const"]
    (jsonPairs t.fields.declared)

def reportSlot (target : String) (f : Field) : String :=
  "    " ++ target ++ "(L\"" ++ f.name ++ "\") = " ++ Member.reportValue f ++ ";"

def toHtmlRow (t : Table) : List String :=
  block ["row_t " ++ t.rowClass ++ "::to_html_row() const"]
    (["    row_t row;", ""] ++ t.fields.declared.map (reportSlot "row") ++
      ["", "    return row;"])

def toHtmlTemplate (t : Table) : List String :=
  block ["void " ++ t.rowClass ++ "::to_html_template(html_template& t) const"]
    (t.fields.declared.map (reportSlot "t"))

def queryMember (member : String) (q : Query) : String :=
  "    " ++ member ++ " = " ++ render q.text ++ ";"

def indexQueries (t : Table) : List String :=
  ["    m_index_query_a = \x7b"] ++
  commaSeparated (t.indices.map fun i => "        " ++ render i.statement) ++ ["    \x7d;"]

def tableConstructor (t : Table) : List String :=
  block [t.tableClass ++ "::" ++ t.tableClass ++ "()"]
    (["    m_table_name = " ++ render t.name ++ ";",
      "", queryMember "m_create_query" t.create,
      "", queryMember "m_drop_query" t.drop,
      ""] ++ indexQueries t ++
    ["", queryMember "m_insert_query" t.insert,
      "", queryMember "m_update_query" t.update,
      "", queryMember "m_delete_query" t.delete,
      "", queryMember "m_select_query" t.select])

-- The expression for an insertion: one string literal, or a format with its arguments.
def seedExpression (s : SeedInsert) : String :=
  if s.isFormatted then
    "wxString::Format(" ++ render s.text ++ ", " ++ Text.join ", " s.arguments ++ ")"
  else render s.text

def seedCall (s : SeedInsert) : String := "    m_db->ExecuteUpdate(" ++ seedExpression s ++ ");"

-- The seed rows, inserted in one transaction; nothing for a table without seed rows.
def ensureData (t : Table) : List String :=
  if t.seeds.isEmpty then []
  else
    block ["void " ++ t.tableClass ++ "::ensure_data()"]
      (["    m_db->Begin();"] ++ t.seeds.map seedCall ++ ["    m_db->Commit();"])

def lines (t : Table) : List String :=
  ["", "#include \"_TableFactory.tpp\"", "#include \"" ++ t.tableClass ++ ".h\"",
    "#include \"data/" ++ t.dataClass ++ ".h\"", "",
    "template class TableFactory<" ++ t.tableClass ++ ", " ++ t.dataClass ++ ">;",
    "template class mmCache<int64, " ++ t.dataClass ++ ">;"] ++
  columnNames t ++ Member.defaultConstructor t.rowClass t.fields ++ toInsertStatement t ++
  fromSelectResult t ++ toJson t ++ asJson t ++ toHtmlRow t ++ toHtmlTemplate t ++
  Member.assignmentOperator t.rowClass t.fields ++ Member.equality t.rowClass t.fields ++
  tableConstructor t ++ ensureData t

end TableForge.Code.TableImplementation
