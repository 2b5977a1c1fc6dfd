import TableForge.Code.Member
import TableForge.Proofs.Code.Record

-- The code that row classes and data classes share, with the names in it.
namespace TableForge.Code.Member

-- Parameters.

def statement : Variable := ⟨"wxSQLite3Statement&", "stmt"⟩

def result : Variable := ⟨"wxSQLite3ResultSet&", "q"⟩

def writer : Variable := ⟨"PrettyWriter<StringBuffer>&", "json_writer"⟩

def template : Variable := ⟨"html_template&", "t"⟩

def reference (owner name : String) : Variable := ⟨"const " ++ owner ++ "&", name⟩

def pointer (owner : String) : Variable := ⟨"const " ++ owner ++ "*", "other"⟩

-- Signatures that a class and a definition outside of it share.

def toInsertSignature : Signature :=
  { before := "void ", name := "to_insert_stmt", parameters := [statement, ⟨"int64", "id"⟩],
    after := " const" }

def toUpdateSignature : Signature :=
  { before := "void ", name := "to_update_stmt", parameters := [statement], after := " const" }

def fromSelectSignature (owner : String) : Signature :=
  { before := owner ++ "& ", name := "from_select_result", parameters := [result] }

def toJsonSignature : Signature :=
  { before := "wxString ", name := "to_json", after := " const" }

def asJsonSignature : Signature :=
  { before := "void ", name := "as_json", parameters := [writer], after := " const" }

def toHtmlRowSignature : Signature :=
  { before := "row_t ", name := "to_html_row", after := " const" }

def toHtmlTemplateSignature : Signature :=
  { before := "void ", name := "to_html_template", parameters := [template], after := " const" }

def assignSignature (owner : String) : Signature :=
  { before := owner ++ "& ", name := "operator=", gap := " ",
    parameters := [reference owner "other"] }

def cloneSignature (owner : String) : Signature :=
  { before := owner ++ "& ", name := "clone_from", parameters := [reference owner "other"] }

def equalsSignature (owner : String) : Signature :=
  { before := "bool ", name := "equals", parameters := [pointer owner], after := " const" }

def lessSignature (other : Variable) : Signature :=
  { before := "bool ", name := "operator<", gap := " ", parameters := [other], after := " const" }

-- What stands in both classes.

def declarationEntries (fields : KeyedFields) : List Entry :=
  .member fields.key.kind.memberType fields.key.name " // primary key" ::
    fields.others.map fun f => .member f.kind.memberType f.name ""

def constructorEntries (owner : String) : List Entry :=
  [.note "", .declared { before := "explicit ", name := owner },
    .declared { before := "explicit ", name := owner, parameters := [result] },
    .declared { name := owner, parameters := [reference owner "other"], after := " = default" }]

def keyGetter (key : String) : Function where
  signature := { before := "int64 ", name := "id", after := " const" }
  body := [.line [.code "return ", .own key, .code ";"]]

def keySetter (key : String) : Function where
  signature := { before := "void ", name := "id", parameters := [⟨"const int64", "id"⟩] }
  body := [.line [.own key, .code " = id;"]]

def keyEntries (key : String) : List Entry :=
  [.note "", .short (keyGetter key), .short (keySetter key)]

-- A function that mentions no member.
def plain (signature : Signature) (line : String) : Function where
  signature
  body := [.line [.code line]]

def conversionEntries (owner : String) : List Entry :=
  [.declared toInsertSignature, .declared toUpdateSignature, .declared (fromSelectSignature owner),
    .declared toJsonSignature, .declared asJsonSignature, .declared toHtmlRowSignature,
    .declared toHtmlTemplateSignature,
    .short (plain { before := "void ", name := "destroy" } "delete this;")]

def copyEntries (owner : String) : List Entry :=
  [.note "", .declared (assignSignature owner), .declared (cloneSignature owner),
    .declared (equalsSignature owner),
    .short (plain (lessSignature (reference owner "other")) "return id() < other.id();"),
    .short (plain (lessSignature (pointer owner)) "return id() < other->id();")]

def comparisonStatements (f : Field) : List Statement :=
  match Sorting.ofField f.name with
  | .caseInsensitive =>
    [.line [.code "            // Locale case-insensitive"],
      .line [.code "            return std::wcscoll(x", .dot f.name, .code ".Lower().wc_str(), y",
        .dot f.name, .code ".Lower().wc_str()) < 0;"]]
  | .localized =>
    [.line [.code "            return wxGetTranslation(x", .dot f.name,
      .code ") < wxGetTranslation(y", .dot f.name, .code ");"]]
  | .natural =>
    [.line [.code "            return x", .dot f.name, .code " < y", .dot f.name, .code ";"]]

def sorterFunction (owner : String) (f : Field) : Function where
  signature :=
    { before := "bool ", name := "operator()",
      parameters := [reference owner "x", reference owner "y"] }
  body := comparisonStatements f

def sorterEntries (owner : String) (fields : KeyedFields) : List Entry :=
  fields.declared.flatMap fun f =>
    [.note "", .nested ("SorterBy" ++ f.name) (sorterFunction owner f)]

-- Functions that both classes define in the same way.

def defaultStatement? (f : Field) : Option Statement :=
  (initialValue? f.kind).map fun value =>
    .line [.code "    ", .own f.name, .code (" = " ++ value ++ ";")]

def defaultFunction (owner : String) (fields : KeyedFields) : Function where
  signature := { name := owner }
  body := fields.declared.filterMap defaultStatement?

def assignFunction (owner : String) (fields : KeyedFields) : Function where
  signature := assignSignature owner
  body := [.line [.code "    if (this == &other) return *this;"], .line []] ++
    fields.declared.map (fun f =>
      .line [.code "    ", .own f.name, .code " = other", .dot f.name, .code ";"]) ++
    [.line [], .line [.code "    return *this;"]]

def differenceStatement (f : Field) : Statement :=
  match f.kind with
  | .text => .line [.code "    if (!", .own f.name, .code ".IsSameAs(other", .arrow f.name,
      .code ")) return false;"]
  | _ => .line [.code "    if ( ", .own f.name, .code " != other", .arrow f.name,
      .code ") return false;"]

def equalsFunction (owner : String) (fields : KeyedFields) : Function where
  signature := equalsSignature owner
  body := fields.declared.map differenceStatement ++
    [.line [], .line [.code "    return true;"]]

def resultFunction (owner : String) : Function :=
  plain { before := "inline ", name := owner, parameters := [result] } "    from_select_result(q);"

def cloneFunction (owner : String) : Function where
  signature := { cloneSignature owner with before := "inline " ++ owner ++ "& " }
  body := [.line [.code "    *this = other;"], .line [.code "    id(-1);"],
    .line [.code "    return *this;"]]

-- Both sides cut their literals at other places, so that their characters are compared.
section Lines

variable (owner : String) (fields : KeyedFields)

theorem lines_declarationEntries :
    (declarationEntries fields).flatMap Entry.lines = declarations fields := by
  simp [declarationEntries, declarations, List.map_eq_flatMap, List.flatMap_assoc,
    ← String.toList_inj]

theorem lines_constructorEntries :
    (constructorEntries owner).flatMap Entry.lines = constructors owner := by
  simp [constructorEntries, constructors, Text.join, result, reference, ← String.toList_inj]

theorem lines_keyEntries (key : String) :
    (keyEntries key).flatMap Entry.lines = keyAccess key := by
  simp [keyEntries, keyAccess, keyGetter, keySetter, Text.join, ← String.toList_inj]

theorem lines_conversionEntries :
    (conversionEntries owner).flatMap Entry.lines = conversions owner := by
  simp [conversionEntries, conversions, Text.join, result, toInsertSignature, toUpdateSignature,
    fromSelectSignature, toJsonSignature, asJsonSignature, toHtmlRowSignature,
    toHtmlTemplateSignature, statement, writer, template, plain, ← String.toList_inj]

theorem lines_copyEntries : (copyEntries owner).flatMap Entry.lines = copies owner := by
  simp [copyEntries, copies, Text.join, assignSignature, cloneSignature, equalsSignature,
    lessSignature, reference, pointer, plain, ← String.toList_inj]

theorem text_comparisonStatements (f : Field) :
    (comparisonStatements f).map Statement.text = comparison f := by
  unfold comparisonStatements comparison
  cases Sorting.ofField f.name with
  | caseInsensitive | localized | natural =>
    simp [← String.toList_inj]

theorem lines_sorterEntries :
    (sorterEntries owner fields).flatMap Entry.lines = sorters owner fields := by
  have hsorter (f : Field) :
      [Entry.note "", .nested ("SorterBy" ++ f.name) (sorterFunction owner f)].flatMap Entry.lines =
        sorter owner f := by
    simp [sorterFunction, sorter, reference, text_comparisonStatements, Text.join,
      ← String.toList_inj]
  simp only [sorterEntries, sorters, List.flatMap_assoc, hsorter]

theorem lines_defaultFunction :
    Definition.lines owner ⟨[], defaultFunction owner fields⟩ =
      defaultConstructor owner fields := by
  have hstatement (f : Field) :
      (defaultStatement? f).map Statement.text = initialisation? f := by
    unfold defaultStatement? initialisation?
    cases initialValue? f.kind <;> simp [-String.reduceAppend, String.append_assoc]
  have hbody : (defaultFunction owner fields).bodyText =
      fields.declared.filterMap initialisation? := by
    simp only [Function.bodyText, defaultFunction, List.map_filterMap, hstatement]
  have hhead : (defaultFunction owner fields).signature.text (owner ++ "::") =
      owner ++ "::" ++ owner ++ "()" := by
    simp [defaultFunction, Text.join, String.append_assoc]
  rw [Definition.lines, defaultConstructor, hbody, hhead, List.nil_append]

theorem lines_assignFunction :
    Definition.lines owner ⟨[], assignFunction owner fields⟩ = assignmentOperator owner fields := by
  simp [Definition.lines, assignFunction, assignmentOperator, assignment, assignSignature, reference,
    Text.join, block, ← String.toList_inj]

theorem lines_equalsFunction :
    Definition.lines owner ⟨[], equalsFunction owner fields⟩ = equality owner fields := by
  have hline (f : Field) : (differenceStatement f).text = difference f := by
    unfold differenceStatement difference
    cases f.kind with
    | text | real | integer | date =>
      simp [← String.toList_inj]
  have hhead : (equalsFunction owner fields).signature.text (owner ++ "::") =
      "bool " ++ owner ++ "::equals(const " ++ owner ++ "* other) const" := by
    simp [equalsFunction, equalsSignature, pointer, Text.join, ← String.toList_inj]
  have hbody : (equalsFunction owner fields).bodyText =
      fields.declared.map difference ++ ["", "    return true;"] := by
    simp only [Function.bodyText, equalsFunction, List.map_append, List.map_map, Function.comp_def,
      hline]
    simp
  rw [Definition.lines, equality, hbody, hhead, List.nil_append]

theorem lines_resultFunction :
    Definition.lines owner ⟨[], resultFunction owner⟩ = resultConstructor owner := by
  simp [Definition.lines, resultFunction, plain, resultConstructor, result, Text.join, block,
    ← String.toList_inj]

theorem lines_cloneFunction :
    Definition.lines owner ⟨[], cloneFunction owner⟩ = cloneFrom owner := by
  simp [Definition.lines, cloneFunction, cloneSignature, cloneFrom, reference, Text.join, block,
    ← String.toList_inj]

end Lines

end TableForge.Code.Member
