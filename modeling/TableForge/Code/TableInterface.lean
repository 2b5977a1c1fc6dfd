import TableForge.Code.Member

namespace TableForge.Code.TableInterface

def enumerators (t : Table) : List String :=
  match t.fields.keyFirst with
  | [] => []
  | key :: others =>
    ("        " ++ key.columnId ++ " = 0,") ::
      others.map (fun f => "        " ++ f.columnId ++ ",") ++ ["        COL_ID_size"]

def condition (f : Field) : List String :=
  let type := f.kind.memberType
  ["", "    struct " ++ f.name ++ " : public TableOpV<" ++ type ++ ">", "    \x7b",
    "        static COL_ID col_id() \x7b return " ++ f.columnId ++ "; \x7d",
    "        static wxString col_name() \x7b return COL_NAME_A[" ++ f.columnId ++ "]; \x7d",
    "        explicit " ++ f.name ++ "(const " ++ type ++ " &v): TableOpV<" ++ type ++
      ">(OP_EQ, v) \x7b\x7d",
    "        explicit " ++ f.name ++ "(OP op, const " ++ type ++ " &v): TableOpV<" ++ type ++
      ">(op, v) \x7b\x7d",
    "    \x7d;"]

def columnClass (t : Table) : List String :=
  ["", "// Columns in database table " ++ t.name, "struct " ++ t.columnClass, "\x7b",
    "    enum COL_ID", "    \x7b"] ++ enumerators t ++
  ["    \x7d;", "", "    static const wxArrayString COL_NAME_A;",
    "    static const COL_ID PRIMARY_ID;", "    static const wxString PRIMARY_NAME;", "",
    "    static wxString col_name(COL_ID col_id) \x7b return COL_NAME_A[col_id]; \x7d"] ++
  t.fields.keyFirst.flatMap condition ++ ["\x7d;"]

def matchCondition (f : Field) : List String :=
  ["", "    bool match(const Col::" ++ f.name ++ "& col)", "    \x7b",
    "        return " ++ Member.matchTest f ++ ";", "    \x7d"]

def matchMembers (t : Table) : List String :=
  ["", "    template<typename C>", "    bool match(const C&)", "    \x7b",
    "        return false;", "    \x7d"] ++
  t.fields.declared.flatMap matchCondition ++
  ["", "    template<typename Arg1, typename... Args>",
    "    bool match(const Arg1& arg1, const Args&... args)", "    \x7b",
    "        return (match(arg1) && ... && match(args));", "    \x7d"]

def rowClass (t : Table) : List String :=
  ["", "// A single record in database table " ++ t.name, "struct " ++ t.rowClass, "\x7b",
    "    using Col = " ++ t.columnClass ++ ";", ""] ++
  Member.declarations t.fields ++ Member.constructors t.rowClass ++
  Member.keyAccess t.fields.key.name ++ Member.conversions t.rowClass ++
  Member.copies t.rowClass ++ matchMembers t ++ Member.sorters t.rowClass t.fields ++ ["\x7d;"]

-- The override that fills the table; only a table with seed rows has it.
def seedDeclaration (t : Table) : List String :=
  if t.rows.isEmpty then [] else ["", "    void ensure_data() override;"]

def tableClass (t : Table) : List String :=
  ["", "// Interface to database table " ++ t.name,
    "struct " ++ t.tableClass ++ " : public TableBase", "\x7b",
    "    using Row = " ++ t.rowClass ++ ";", "    using Col = typename Row::Col;", "",
    "    " ++ t.tableClass ++ "();", "    ~" ++ t.tableClass ++ "() \x7b\x7d"] ++
  seedDeclaration t ++ ["\x7d;"]

def inlineMembers (t : Table) : List String :=
  Member.resultConstructor t.rowClass ++
  block ["inline void " ++ t.rowClass ++ "::to_update_stmt(wxSQLite3Statement& stmt) const"]
    ["    to_insert_stmt(stmt, id());"] ++
  Member.cloneFrom t.rowClass

-- The interface of a table: column enumeration, row class and table class.
def lines (t : Table) : List String :=
  ["", "#pragma once", "", "#include \"_TableBase.h\""] ++
  columnClass t ++ rowClass t ++ tableClass t ++ inlineMembers t

end TableForge.Code.TableInterface
