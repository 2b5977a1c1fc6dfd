import TableForge.Code.DataImplementation
import TableForge.Code.DataInterface
import TableForge.Code.TableImplementation
import TableForge.Code.TableInterface
import TableForge.Proofs.Code.RecordMembers

-- The row class and the data class of a table, with the names in them.
namespace TableForge.Code

open Member

namespace TableInterface

-- The test of a row against conditions on columns it does not have.
def matchAny : Function where
  signature := { before := "bool ", name := "match", parameters := [⟨"const C&", none⟩] }
  body := [.line [.code "        return false;"]]

def matchPieces (f : Field) : List Piece :=
  match f.kind with
  | .text => [.own f.name, .code ".CmpNoCase(col.m_value) == 0"]
  | _ => [.own f.name, .code " == col.m_value"]

def matchColumn (f : Field) : Function where
  signature :=
    { before := "bool ", name := "match", parameters := [reference ("Col::" ++ f.name) "col"] }
  body := [.line ([.code "        return "] ++ matchPieces f ++ [.code ";"])]

-- The test against several conditions.
def matchAll : Function where
  signature :=
    { before := "bool ", name := "match",
      parameters := [⟨"const Arg1&", "arg1"⟩, ⟨"const Args&...", "args"⟩] }
  body := [.line [.code "        return (match(arg1) && ... && match(args));"]]

def matchEntries (fields : KeyedFields) : List Entry :=
  [.note "", .note "    template<typename C>", .long matchAny] ++
  fields.declared.flatMap (fun f => [.note "", .long (matchColumn f)]) ++
  [.note "", .note "    template<typename Arg1, typename... Args>", .long matchAll]

def updateFunction : Function :=
  plain { toUpdateSignature with before := "inline void " } "    to_insert_stmt(stmt, id());"

theorem lines_matchEntries (t : Table) :
    (matchEntries t.fields).flatMap Entry.lines = matchMembers t := by
  have hcolumn (f : Field) :
      [Entry.note "", .long (matchColumn f)].flatMap Entry.lines = matchCondition f := by
    unfold matchColumn matchPieces matchCondition matchTest
    cases f.kind with
    | text | real | integer | date =>
      simp [reference, Text.join, ← String.toList_inj]
  simp only [matchEntries, matchMembers, List.flatMap_append, List.flatMap_assoc, hcolumn]
  simp [matchAny, matchAll, Text.join]

theorem lines_updateFunction (t : Table) :
    Definition.lines t.rowClass ⟨[], updateFunction⟩ =
      block ["inline void " ++ t.rowClass ++ "::to_update_stmt(wxSQLite3Statement& stmt) const"]
        ["    to_insert_stmt(stmt, id());"] := by
  simp [Definition.lines, updateFunction, plain, toUpdateSignature, statement, Text.join, block,
    ← String.toList_inj]

end TableInterface

namespace TableImplementation

def bindStatement (position : Nat) (value : Piece) : Statement :=
  .line [.code ("    stmt.Bind(" ++ toString position ++ ", "), value, .code ");"]

def bindStatements : Nat → List Piece → List Statement
  | _, [] => []
  | position, value :: rest => bindStatement position value :: bindStatements (position + 1) rest

def insertFunction (t : Table) : Function where
  signature := toInsertSignature
  body := bindStatements 1 (t.fields.others.map (fun f => .own f.name) ++ [.code "id"])

def selectFunction (t : Table) : Function where
  signature := fromSelectSignature t.rowClass
  body := t.fields.declared.map (fun f =>
      .line [.code "    ", .own f.name,
        .code (" = q." ++ f.kind.accessor ++ "(" ++ toString f.ordinal ++ ");")]) ++
    [.line [], .line [.code "    return *this;"]]

def jsonFunction : Function where
  signature := toJsonSignature
  body := [.declaration ⟨"StringBuffer", "json_buffer"⟩ ";",
    .declaration ⟨"PrettyWriter<StringBuffer>", "json_writer"⟩ "(json_buffer);", .line [],
    .line [.code "    json_writer.StartObject();"], .line [.code "    as_json(json_writer);"],
    .line [.code "    json_writer.EndObject();"], .line [],
    .line [.code "    return json_buffer.GetString();"]]

def jsonPieces (f : Field) : List Piece :=
  match f.kind with
  | .integer => [.code "    json_writer.Int64(", .own f.name, .code ".GetValue());"]
  | .real => [.code "    json_writer.Double(", .own f.name, .code ");"]
  | .text => [.code "    json_writer.String(", .own f.name, .code ".utf8_str());"]
  | .date => [.code "    json_writer.String(", .own f.name,
      .code ".FormatISOCombined().utf8_str());"]

def pairStatements (f : Field) : List Statement :=
  [.line [.code "    json_writer.Key(", .quoted f.name, .code ");"], .line (jsonPieces f)]

def pairsStatements : List Field → List Statement
  | [] => []
  | [f] => pairStatements f
  | f :: rest => pairStatements f ++ [.line []] ++ pairsStatements rest

def pairsFunction (t : Table) : Function where
  signature := asJsonSignature
  body := pairsStatements t.fields.declared

def valuePieces (f : Field) : List Piece :=
  match f.kind with
  | .integer => [.own f.name, .code ".GetValue()"]
  | .date => [.own f.name, .code ".FormatISOCombined()"]
  | .real | .text => [.own f.name]

def slotStatement (target : String) (f : Field) : Statement :=
  .line ([.code ("    " ++ target ++ "(L"), .quoted f.name, .code ") = "] ++ valuePieces f ++
    [.code ";"])

def reportFunction (t : Table) : Function where
  signature := toHtmlRowSignature
  body := [.declaration ⟨"row_t", "row"⟩ ";", .line []] ++
    t.fields.declared.map (slotStatement "row") ++ [.line [], .line [.code "    return row;"]]

def templateFunction (t : Table) : Function where
  signature := toHtmlTemplateSignature
  body := t.fields.declared.map (slotStatement "t")

theorem text_bindStatements (position : Nat) (values : List Piece) :
    (bindStatements position values).map Statement.text =
      bindCalls position (values.map Piece.text) := by
  induction values generalizing position with
  | nil => rfl
  | cons value rest ih =>
    rw [bindStatements, List.map_cons, ih, List.map_cons, bindCalls]
    simp [bindStatement, String.append_assoc]

theorem lines_insertFunction (t : Table) :
    Definition.lines t.rowClass ⟨["// Bind a Row record to database insert statement."],
      insertFunction t⟩ = toInsertStatement t := by
  have hhead : (insertFunction t).signature.text (t.rowClass ++ "::") =
      "void " ++ t.rowClass ++ "::to_insert_stmt(wxSQLite3Statement& stmt, int64 id) const" := by
    simp [insertFunction, toInsertSignature, statement, Text.join, ← String.toList_inj]
  have hbody : (insertFunction t).bodyText = bindCalls 1 (boundValues t) := by
    rw [Function.bodyText, insertFunction, text_bindStatements, boundValues, List.map_append,
      List.map_map]
    rfl
  rw [Definition.lines, toInsertStatement, hhead, hbody]
  rfl

theorem lines_selectFunction (t : Table) :
    Definition.lines t.rowClass ⟨[], selectFunction t⟩ = fromSelectResult t := by
  simp [Definition.lines, selectFunction, fromSelectResult, fromSelectSignature, result, readMember,
    Text.join, block, ← String.toList_inj]

theorem lines_jsonFunction (t : Table) :
    Definition.lines t.rowClass ⟨["// Return the data record as a json string"], jsonFunction⟩ =
      toJson t := by
  simp [Definition.lines, jsonFunction, toJson, toJsonSignature, Text.join, block,
    ← String.toList_inj]

theorem text_pairStatements (f : Field) : (pairStatements f).map Statement.text = jsonPair f := by
  unfold pairStatements jsonPieces jsonPair jsonCall
  cases f.kind with
  | text | real | integer | date =>
    simp [← String.toList_inj]

theorem text_pairsStatements (fields : List Field) :
    (pairsStatements fields).map Statement.text = jsonPairs fields := by
  fun_induction pairsStatements fields with
  | case1 => rfl
  | case2 f => exact text_pairStatements f
  | case3 f rest hrest ih =>
    have hblank : [Statement.line []].map Statement.text = [""] := by simp
    rw [List.map_append, List.map_append, text_pairStatements, ih, hblank, jsonPairs]
    exact hrest

theorem lines_pairsFunction (t : Table) :
    Definition.lines t.rowClass ⟨["// Add the field data as json key:value pairs"],
      pairsFunction t⟩ = asJson t := by
  have hhead : (pairsFunction t).signature.text (t.rowClass ++ "::") =
      "void " ++ t.rowClass ++ "::as_json(PrettyWriter<StringBuffer>& json_writer) const" := by
    simp [pairsFunction, asJsonSignature, writer, Text.join, ← String.toList_inj]
  have hbody : (pairsFunction t).bodyText = jsonPairs t.fields.declared :=
    text_pairsStatements t.fields.declared
  rw [Definition.lines, asJson, hhead, hbody]
  rfl

theorem text_slotStatement (target : String) (f : Field) :
    (slotStatement target f).text = reportSlot target f := by
  unfold slotStatement valuePieces reportSlot reportValue
  cases f.kind with
  | text | real | integer | date =>
    simp [← String.toList_inj]

theorem lines_reportFunction (t : Table) :
    Definition.lines t.rowClass ⟨[], reportFunction t⟩ = toHtmlRow t := by
  have hhead : (reportFunction t).signature.text (t.rowClass ++ "::") =
      "row_t " ++ t.rowClass ++ "::to_html_row() const" := by
    simp [reportFunction, toHtmlRowSignature, Text.join, ← String.toList_inj]
  have hbody : (reportFunction t).bodyText =
      ["    row_t row;", ""] ++ t.fields.declared.map (reportSlot "row") ++
        ["", "    return row;"] := by
    simp only [Function.bodyText, reportFunction, List.map_append, List.map_map,
      Function.comp_def, text_slotStatement]
    simp
  rw [Definition.lines, toHtmlRow, hhead, hbody, List.nil_append]

theorem lines_templateFunction (t : Table) :
    Definition.lines t.rowClass ⟨[], templateFunction t⟩ = toHtmlTemplate t := by
  have hhead : (templateFunction t).signature.text (t.rowClass ++ "::") =
      "void " ++ t.rowClass ++ "::to_html_template(html_template& t) const" := by
    simp [templateFunction, toHtmlTemplateSignature, template, Text.join, ← String.toList_inj]
  have hbody : (templateFunction t).bodyText = t.fields.declared.map (reportSlot "t") := by
    simp only [Function.bodyText, templateFunction, List.map_map, Function.comp_def,
      text_slotStatement]
  rw [Definition.lines, toHtmlTemplate, hhead, hbody, List.nil_append]

def implemented (t : Table) : List Definition :=
  [⟨[], defaultFunction t.rowClass t.fields⟩,
    ⟨["// Bind a Row record to database insert statement."], insertFunction t⟩,
    ⟨[], selectFunction t⟩, ⟨["// Return the data record as a json string"], jsonFunction⟩,
    ⟨["// Add the field data as json key:value pairs"], pairsFunction t⟩,
    ⟨[], reportFunction t⟩, ⟨[], templateFunction t⟩,
    ⟨[], assignFunction t.rowClass t.fields⟩, ⟨[], equalsFunction t.rowClass t.fields⟩]

end TableImplementation

namespace DataInterface

def toRowSignature (t : Table) : Signature :=
  { before := t.rowClass ++ " ", name := "to_row", after := " const" }

def fromRowSignature (t : Table) : Signature :=
  { before := t.dataClass ++ "& ", name := "from_row", parameters := [reference t.rowClass "row"] }

-- Functions that leave their work to the row.
def delegateFunctions (t : Table) : List Function :=
  [plain { toInsertSignature with before := "inline void " }
      "    to_row().to_insert_stmt(stmt, id);",
    plain { toUpdateSignature with before := "inline void " } "    to_row().to_update_stmt(stmt);",
    plain { fromSelectSignature t.dataClass with before := "inline " ++ t.dataClass ++ "& " }
      ("    return from_row(" ++ t.rowClass ++ "().from_select_result(q));"),
    plain { toJsonSignature with before := "inline wxString " } "    return to_row().to_json();",
    plain { asJsonSignature with before := "inline void " } "    to_row().as_json(json_writer);",
    plain { toHtmlRowSignature with before := "inline row_t " }
      "    return to_row().to_html_row();",
    plain { toHtmlTemplateSignature with before := "inline void " }
      "    to_row().to_html_template(t);"]

def inlined (t : Table) : List Definition :=
  ([resultFunction t.dataClass] ++ delegateFunctions t ++ [cloneFunction t.dataClass]).map
    (Definition.mk [])

theorem lines_inlined (t : Table) :
    (inlined t).flatMap (Definition.lines t.dataClass) = delegates t := by
  have hdelegates :
      ((delegateFunctions t).map (Definition.mk [])).flatMap (Definition.lines t.dataClass) =
        delegate "void" t.dataClass "to_insert_stmt(wxSQLite3Statement& stmt, int64 id) const"
          "to_row().to_insert_stmt(stmt, id);" ++
        delegate "void" t.dataClass "to_update_stmt(wxSQLite3Statement& stmt) const"
          "to_row().to_update_stmt(stmt);" ++
        delegate (t.dataClass ++ "&") t.dataClass "from_select_result(wxSQLite3ResultSet& q)"
          ("return from_row(" ++ t.rowClass ++ "().from_select_result(q));") ++
        delegate "wxString" t.dataClass "to_json() const" "return to_row().to_json();" ++
        delegate "void" t.dataClass "as_json(PrettyWriter<StringBuffer>& json_writer) const"
          "to_row().as_json(json_writer);" ++
        delegate "row_t" t.dataClass "to_html_row() const" "return to_row().to_html_row();" ++
        delegate "void" t.dataClass "to_html_template(html_template& t) const"
          "to_row().to_html_template(t);" := by
    simp [Definition.lines, delegateFunctions, plain, delegate, block, Text.join, toInsertSignature,
      toUpdateSignature, fromSelectSignature, toJsonSignature, asJsonSignature, toHtmlRowSignature,
      toHtmlTemplateSignature, statement, result, writer, template, ← String.toList_inj]
  simp only [inlined, List.map_append, List.flatMap_append, hdelegates, List.map_cons, List.map_nil,
    List.flatMap_cons, List.flatMap_nil, List.append_nil, lines_resultFunction, lines_cloneFunction,
    delegates, List.append_assoc]

end DataInterface

namespace DataImplementation

open DataInterface

def toRowFunction (t : Table) : Function where
  signature := toRowSignature t
  body := [.declaration ⟨t.rowClass, "row"⟩ ";", .line []] ++
    t.fields.declared.map (fun f =>
      .line [.code "    row", .dot f.name, .code " = ", .own f.name, .code ";"]) ++
    [.line [], .line [.code "    return row;"]]

def fromRowFunction (t : Table) : Function where
  signature := fromRowSignature t
  body := t.fields.declared.map (fun f =>
      .line [.code "    ", .own f.name, .code " = row", .dot f.name,
        .code ("; // " ++ f.kind.memberType)]) ++
    [.line [], .line [.code "    return *this;"]]

def implemented (t : Table) : List Definition :=
  [⟨[], defaultFunction t.dataClass t.fields⟩,
    ⟨["// Convert " ++ t.dataClass ++ " to " ++ t.rowClass], toRowFunction t⟩,
    ⟨["// Convert " ++ t.rowClass ++ " to " ++ t.dataClass], fromRowFunction t⟩,
    ⟨[], assignFunction t.dataClass t.fields⟩, ⟨[], equalsFunction t.dataClass t.fields⟩]

theorem lines_toRowFunction (t : Table) :
    Definition.lines t.dataClass ⟨["// Convert " ++ t.dataClass ++ " to " ++ t.rowClass],
      toRowFunction t⟩ = toRow t := by
  simp [Definition.lines, toRowFunction, toRow, toRowSignature, rowAssignments, Text.join, block,
    ← String.toList_inj]

theorem lines_fromRowFunction (t : Table) :
    Definition.lines t.dataClass ⟨["// Convert " ++ t.rowClass ++ " to " ++ t.dataClass],
      fromRowFunction t⟩ = fromRow t := by
  simp [Definition.lines, fromRowFunction, fromRow, fromRowSignature, reference, dataAssignments,
    Text.join, block, ← String.toList_inj]

end DataImplementation

end TableForge.Code

namespace TableForge.Table

open Code Code.Member

def rowRecord (t : Table) : Record where
  name := t.rowClass
  remark := "// A single record in database table " ++ t.name
  entries := [.alias "Col" t.columnClass, .note ""] ++ declarationEntries t.fields ++
    constructorEntries t.rowClass ++ keyEntries t.fields.key.name ++ conversionEntries t.rowClass ++
    copyEntries t.rowClass ++ TableInterface.matchEntries t.fields ++
    sorterEntries t.rowClass t.fields
  inlined := [⟨[], resultFunction t.rowClass⟩, ⟨[], TableInterface.updateFunction⟩,
    ⟨[], cloneFunction t.rowClass⟩]
  implemented := TableImplementation.implemented t

def dataRecord (t : Table) : Record where
  name := t.dataClass
  remark := "// User-friendly representation of a record in table " ++ t.name ++ "."
  entries := declarationEntries t.fields ++ constructorEntries t.dataClass ++
    keyEntries t.fields.key.name ++
    [.declared (DataInterface.toRowSignature t), .declared (DataInterface.fromRowSignature t)] ++
    conversionEntries t.dataClass ++ copyEntries t.dataClass ++ sorterEntries t.dataClass t.fields
  inlined := DataInterface.inlined t
  implemented := DataImplementation.implemented t

-- The four modules of a table have the texts of its two classes.

theorem lines_tableInterface (t : Table) :
    TableInterface.lines t =
      ["", "#pragma once", "", "#include \"_TableBase.h\""] ++ TableInterface.columnClass t ++
        t.rowRecord.classLines ++ TableInterface.tableClass t ++ t.rowRecord.inlinedLines := by
  have hclass : t.rowRecord.classLines = TableInterface.rowClass t := by
    have halias : [Entry.alias "Col" t.columnClass, .note ""].flatMap Entry.lines =
        ["    using Col = " ++ t.columnClass ++ ";", ""] := by
      simp
    simp only [Record.classLines, rowRecord, TableInterface.rowClass, List.flatMap_append, halias,
      lines_declarationEntries, lines_constructorEntries, lines_keyEntries, lines_conversionEntries,
      lines_copyEntries, TableInterface.lines_matchEntries, lines_sorterEntries]
    simp only [List.cons_append, List.nil_append, List.append_assoc]
  have hinlined : t.rowRecord.inlinedLines = TableInterface.inlineMembers t := by
    simp only [Record.inlinedLines, rowRecord, TableInterface.inlineMembers, List.flatMap_cons,
      List.flatMap_nil, List.append_nil, lines_resultFunction, TableInterface.lines_updateFunction,
      lines_cloneFunction, List.append_assoc]
  rw [hclass, hinlined, TableInterface.lines]

theorem lines_tableImplementation (t : Table) :
    TableImplementation.lines t =
      ["", "#include \"_TableFactory.tpp\"", "#include \"" ++ t.tableClass ++ ".h\"",
        "#include \"data/" ++ t.dataClass ++ ".h\"", "",
        "template class TableFactory<" ++ t.tableClass ++ ", " ++ t.dataClass ++ ">;",
        "template class mmCache<int64, " ++ t.dataClass ++ ">;"] ++
      TableImplementation.columnNames t ++ t.rowRecord.implementedLines ++
      TableImplementation.tableConstructor t ++ TableImplementation.ensureData t := by
  simp only [Record.implementedLines, rowRecord, TableImplementation.implemented,
    TableImplementation.lines, List.flatMap_cons, List.flatMap_nil, List.append_nil,
    lines_defaultFunction, TableImplementation.lines_insertFunction,
    TableImplementation.lines_selectFunction, TableImplementation.lines_jsonFunction,
    TableImplementation.lines_pairsFunction, TableImplementation.lines_reportFunction,
    TableImplementation.lines_templateFunction, lines_assignFunction, lines_equalsFunction,
    List.append_assoc]

theorem lines_dataInterface (t : Table) :
    DataInterface.lines t =
      DataInterface.remarks t ++ ["", "#pragma once", "", "#include \"table/_TableBase.h\"",
        "#include \"table/" ++ t.tableClass ++ ".h\""] ++
      t.dataRecord.classLines ++ t.dataRecord.inlinedLines := by
  have hclass : t.dataRecord.classLines = DataInterface.dataClass t := by
    have hconversions : [Entry.declared (DataInterface.toRowSignature t),
        .declared (DataInterface.fromRowSignature t)].flatMap Entry.lines =
        ["    " ++ t.rowClass ++ " to_row() const;",
          "    " ++ t.dataClass ++ "& from_row(const " ++ t.rowClass ++ "& row);"] := by
      simp [DataInterface.toRowSignature, DataInterface.fromRowSignature, reference, Text.join,
        ← String.toList_inj]
    simp only [Record.classLines, dataRecord, DataInterface.dataClass, List.flatMap_append,
      lines_declarationEntries, lines_constructorEntries, lines_keyEntries, hconversions,
      lines_conversionEntries, lines_copyEntries, lines_sorterEntries, List.append_assoc]
  rw [hclass, Record.inlinedLines, dataRecord, DataInterface.lines_inlined, DataInterface.lines]

theorem lines_dataImplementation (t : Table) :
    DataImplementation.lines t =
      ["", "// PLEASE EDIT!",
        "// This is only sample code re-used from \"table/" ++ t.tableClass ++ ".cpp\".", "",
        "#include \"" ++ t.dataClass ++ ".h\""] ++ t.dataRecord.implementedLines := by
  simp only [Record.implementedLines, dataRecord, DataImplementation.implemented,
    DataImplementation.lines, List.flatMap_cons, List.flatMap_nil, List.append_nil,
    lines_defaultFunction, DataImplementation.lines_toRowFunction,
    DataImplementation.lines_fromRowFunction, lines_assignFunction, lines_equalsFunction,
    List.append_assoc]

end TableForge.Table
