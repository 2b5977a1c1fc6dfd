import TableForge.Code.Lines
import TableForge.Column.Sorting
import TableForge.Table.Model

-- Code that row classes and data classes share. `owner` is the name of the class.
namespace TableForge.Code.Member

def declarations (fields : KeyedFields) : List String :=
  ("    " ++ fields.key.kind.memberType ++ " " ++ fields.key.name ++ "; // primary key") ::
    fields.others.map fun f => "    " ++ f.kind.memberType ++ " " ++ f.name ++ ";"

-- The first value of a member; texts and dates have one of their own.
def initialValue? : ValueKind → Option String
  | .real => some "0.0"
  | .integer => some "0"
  | _ => none

def initialisation? (f : Field) : Option String :=
  (initialValue? f.kind).map fun value => "    " ++ f.name ++ " = " ++ value ++ ";"

def defaultConstructor (owner : String) (fields : KeyedFields) : List String :=
  block [owner ++ "::" ++ owner ++ "()"] (fields.declared.filterMap initialisation?)

def assignment (fields : KeyedFields) : List String :=
  fields.declared.map fun f => "    " ++ f.name ++ " = other." ++ f.name ++ ";"

def assignmentOperator (owner : String) (fields : KeyedFields) : List String :=
  block [owner ++ "& " ++ owner ++ "::operator= (const " ++ owner ++ "& other)"]
    (["    if (this == &other) return *this;", ""] ++ assignment fields ++
      ["", "    return *this;"])

def difference (f : Field) : String :=
  match f.kind with
  | .text => "    if (!" ++ f.name ++ ".IsSameAs(other->" ++ f.name ++ ")) return false;"
  | _ => "    if ( " ++ f.name ++ " != other->" ++ f.name ++ ") return false;"

def equality (owner : String) (fields : KeyedFields) : List String :=
  block ["bool " ++ owner ++ "::equals(const " ++ owner ++ "* other) const"]
    (fields.declared.map difference ++ ["", "    return true;"])

def comparison (f : Field) : List String :=
  match Sorting.ofField f.name with
  | .caseInsensitive =>
    ["            // Locale case-insensitive",
      "            return std::wcscoll(x." ++ f.name ++ ".Lower().wc_str(), y." ++ f.name ++
        ".Lower().wc_str()) < 0;"]
  | .localized =>
    ["            return wxGetTranslation(x." ++ f.name ++ ") < wxGetTranslation(y." ++ f.name ++
      ");"]
  | .natural => ["            return x." ++ f.name ++ " < y." ++ f.name ++ ";"]

def sorter (owner : String) (f : Field) : List String :=
  ["", "    struct SorterBy" ++ f.name, "    \x7b",
    "        bool operator()(const " ++ owner ++ "& x, const " ++ owner ++ "& y)",
    "        \x7b"] ++ comparison f ++ ["        \x7d", "    \x7d;"]

def sorters (owner : String) (fields : KeyedFields) : List String :=
  fields.declared.flatMap (sorter owner)

def jsonCall (f : Field) : String :=
  match f.kind with
  | .integer => "json_writer.Int64(" ++ f.name ++ ".GetValue());"
  | .real => "json_writer.Double(" ++ f.name ++ ");"
  | .text => "json_writer.String(" ++ f.name ++ ".utf8_str());"
  | .date => "json_writer.String(" ++ f.name ++ ".FormatISOCombined().utf8_str());"

def reportValue (f : Field) : String :=
  match f.kind with
  | .integer => f.name ++ ".GetValue()"
  | .date => f.name ++ ".FormatISOCombined()"
  | .real | .text => f.name

def matchTest (f : Field) : String :=
  match f.kind with
  | .text => f.name ++ ".CmpNoCase(col.m_value) == 0"
  | _ => f.name ++ " == col.m_value"

def constructors (owner : String) : List String :=
  ["", "    explicit " ++ owner ++ "();",
    "    explicit " ++ owner ++ "(wxSQLite3ResultSet& q);",
    "    " ++ owner ++ "(const " ++ owner ++ "& other) = default;"]

def keyAccess (key : String) : List String :=
  ["", "    int64 id() const \x7b return " ++ key ++ "; \x7d",
    "    void id(const int64 id) \x7b " ++ key ++ " = id; \x7d"]

def conversions (owner : String) : List String :=
  ["    void to_insert_stmt(wxSQLite3Statement& stmt, int64 id) const;",
    "    void to_update_stmt(wxSQLite3Statement& stmt) const;",
    "    " ++ owner ++ "& from_select_result(wxSQLite3ResultSet& q);",
    "    wxString to_json() const;",
    "    void as_json(PrettyWriter<StringBuffer>& json_writer) const;",
    "    row_t to_html_row() const;",
    "    void to_html_template(html_template& t) const;",
    "    void destroy() \x7b delete this; \x7d"]

def copies (owner : String) : List String :=
  ["", "    " ++ owner ++ "& operator= (const " ++ owner ++ "& other);",
    "    " ++ owner ++ "& clone_from(const " ++ owner ++ "& other);",
    "    bool equals(const " ++ owner ++ "* other) const;",
    "    bool operator< (const " ++ owner ++ "& other) const \x7b return id() < other.id(); \x7d",
    "    bool operator< (const " ++ owner ++ "* other) const \x7b return id() < other->id(); \x7d"]

def cloneFrom (owner : String) : List String :=
  block ["inline " ++ owner ++ "& " ++ owner ++ "::clone_from(const " ++ owner ++ "& other)"]
    ["    *this = other;", "    id(-1);", "    return *this;"]

def resultConstructor (owner : String) : List String :=
  block ["inline " ++ owner ++ "::" ++ owner ++ "(wxSQLite3ResultSet& q)"]
    ["    from_select_result(q);"]

end TableForge.Code.Member
