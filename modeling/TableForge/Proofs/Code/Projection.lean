import TableForge.Code.TableImplementation
import TableForge.Proofs.Text.Lines

namespace TableForge.Code.TableImplementation

open Text (between? between?_eq_some_iff between?_eq_none_of_head between?_eq_none_of_tail
  lastWord? lastWord?_append)

-- The definitions of the implementation, in their order.
def definitions (t : Table) : List (List String) :=
  [columnNames t, Member.defaultConstructor t.rowClass t.fields, toInsertStatement t,
    fromSelectResult t, toJson t, asJson t, toHtmlRow t, toHtmlTemplate t,
    Member.assignmentOperator t.rowClass t.fields, Member.equality t.rowClass t.fields,
    tableConstructor t, ensureData t]

theorem infix_lines {t : Table} {body : List String} (h : body ∈ definitions t) :
    body <:+: lines t := by
  obtain ⟨head, hlines⟩ : ∃ head, lines t = (head :: definitions t).flatten :=
    ⟨_, by
      simp only [lines, definitions, List.flatten_cons, List.flatten_nil, List.append_nil,
        List.append_assoc]
      rfl⟩
  rw [hlines]
  exact List.infix_of_mem_flatten (List.mem_cons_of_mem _ h)

-- A member that is read from a column of the result set, found from the end of its line: its
-- name, the accessor and the position.
def readRead? (line : String) : Option (String × String × Nat) := do
  let (callee, digits) ← lastWord? Char.isDigit "(" (← between? "    " ");" line)
  let (name, accessor) ← lastWord? Char.isAlphanum " = q." callee
  return (name, accessor, Nat.ofDigitChars 10 digits.toList 0)

theorem readRead_readMember (f : Field) :
    readRead? (readMember f) = some (f.name, f.kind.accessor, f.ordinal) := by
  have hline : between? "    " ");" (readMember f) =
      some (f.name ++ " = q." ++ f.kind.accessor ++ "(" ++ toString f.ordinal) := by
    rw [between?_eq_some_iff]
    simp only [readMember, String.append_assoc]
  have hcall : lastWord? Char.isDigit "("
      (f.name ++ " = q." ++ f.kind.accessor ++ "(" ++ toString f.ordinal) =
        some (f.name ++ " = q." ++ f.kind.accessor, toString f.ordinal) := by
    refine lastWord?_append (List.all_eq_true.mpr fun c hc => ?_) (c := '(') (by decide) (by decide)
    rw [Nat.toString_eq_repr, Nat.toList_repr] at hc
    exact Nat.isDigit_of_mem_toDigits (by decide) (by decide) hc
  have hcallee : lastWord? Char.isAlphanum " = q." (f.name ++ " = q." ++ f.kind.accessor) =
      some (f.name, f.kind.accessor) :=
    lastWord?_append (by cases f.kind <;> decide) (c := '.') (by decide) (by decide)
  have hposition : Nat.ofDigitChars 10 (toString f.ordinal).toList 0 = f.ordinal := by
    rw [Nat.toString_eq_repr, Nat.toList_repr, Nat.ofDigitChars_ten_toDigits]
  simp only [readRead?, hline, hcall, hcallee, hposition, Option.bind_eq_bind, Option.bind_some,
    Option.pure_def]

-- Lines that are made from fields and are all read.
theorem filterMap_map_eq {α : Type} {read : String → Option α} {line : Field → String}
    {content : Field → α} (h : ∀ f, read (line f) = some (content f)) (fields : List Field) :
    (fields.map line).filterMap read = fields.map content := by
  induction fields with
  | nil => rfl
  | cons f rest ih =>
    rw [List.map_cons, List.filterMap_cons_some (h f), ih]
    rfl

-- A definition in which nothing but the body is read.
theorem filterMap_block {α : Type} {read : String → Option α} {head body : List String}
    (hhead : ∀ line ∈ head, read line = none)
    (hmarks : ["", "\x7b", "\x7d"].filterMap read = []) :
    (block head body).filterMap read = body.filterMap read := by
  simp only [List.filterMap_eq_nil_iff, List.forall_mem_cons] at hmarks
  obtain ⟨hblank, hopen, hclose, -⟩ := hmarks
  have hnone : head.filterMap read = [] := List.filterMap_eq_nil_iff.mpr hhead
  simp [block, hblank, hopen, hclose, hnone]

theorem filterMap_fromSelectResult (t : Table) :
    (fromSelectResult t).filterMap readRead? =
      t.fields.declared.map fun f => (f.name, f.kind.accessor, f.ordinal) := by
  have hhead : readRead? (t.rowClass ++ "& " ++ t.rowClass ++
      "::from_select_result(wxSQLite3ResultSet& q)") = none := by
    rw [readRead?, between?_eq_none_of_tail (c := ')') (d := ';') (by decide) (by decide)
      (by decide)]
    rfl
  have hreturn : ["", "    return *this;"].filterMap readRead? = [] := by decide
  rw [fromSelectResult, filterMap_block (by simpa using hhead) (by decide), List.filterMap_append,
    hreturn, List.append_nil, filterMap_map_eq readRead_readMember]

-- What a report adds to the name of a member, according to the kind of its values.
def conversion : ValueKind → String
  | .integer => ".GetValue()"
  | .date => ".FormatISOCombined()"
  | .real | .text => ""

-- The name in a text that has it on both sides of a sign.
def halves? (sign s : String) : Option String :=
  let name := String.ofList (s.toList.take ((s.length - sign.length) / 2))
  if s = name ++ sign ++ name then some name else none

theorem halves?_eq_some_iff {sign s name : String} :
    halves? sign s = some name ↔ s = name ++ sign ++ name := by
  rw [halves?, Option.ite_none_right_eq_some]
  constructor
  · rintro ⟨hs, hname⟩
    obtain rfl := Option.some.inj hname
    exact hs
  · rintro rfl
    have htake : String.ofList ((name ++ sign ++ name).toList.take
        (((name ++ sign ++ name).length - sign.length) / 2)) = name := by
      have hlength : ((name ++ sign ++ name).length - sign.length) / 2 = name.toList.length := by
        simp only [String.length_append, String.length_toList]
        omega
      rw [hlength, String.append_assoc, String.toList_append, List.take_left', String.ofList_toList]
      rfl
    rw [htake]
    exact ⟨rfl, rfl⟩

-- A name with a sign and the converted name behind it.
def readConverted? (kind : ValueKind) (slot : String) : Option (String × String) := do
  let name ← halves? "\") = " (← between? "" (conversion kind) slot)
  return (name, conversion kind)

-- A slot of a report: the name in the brackets and the conversion.
def readSlot? (target line : String) : Option (String × String) := do
  let slot ← between? ("    " ++ target ++ "(L\"") ";" line
  [ValueKind.text, .integer, .date].findSome? (readConverted? · slot)

theorem readConverted?_eq_some_iff {kind : ValueKind} {slot name text : String} :
    readConverted? kind slot = some (name, text) ↔
      slot = name ++ "\") = " ++ name ++ conversion kind ∧ text = conversion kind := by
  simp only [readConverted?, Option.bind_eq_bind, Option.bind_eq_some_iff, between?_eq_some_iff,
    halves?_eq_some_iff, String.empty_append, Option.pure_def, Option.some.injEq, Prod.mk.injEq]
  constructor
  · rintro ⟨_, rfl, _, rfl, rfl, rfl⟩
    exact ⟨rfl, rfl⟩
  · rintro ⟨rfl, rfl⟩
    exact ⟨_, rfl, _, rfl, rfl, rfl⟩

-- A slot without a conversion is not one with a conversion of dates: the longer name would begin
-- with the sign and end like the conversion.
theorem append_ne_append_date (x y : List Char) :
    x ++ "\") = ".toList ++ x ≠ y ++ "\") = ".toList ++ y ++ (conversion .date).toList := by
  intro h
  have hlength := congrArg List.length h
  simp only [List.length_append, conversion] at hlength
  have hlong : y <+: x ++ "\") = ".toList ++ x := by
    rw [h, List.append_assoc, List.append_assoc]
    exact List.prefix_append _ _
  have hshort : x <+: x ++ "\") = ".toList ++ x := by
    rw [List.append_assoc]
    exact List.prefix_append _ _
  have hfront : y <+: x := by
    refine List.prefix_of_prefix_length_le hlong hshort ?_
    simp at hlength
    omega
  obtain ⟨more, rfl⟩ := hfront
  have hmore : more.length = 10 := by
    simp at hlength
    omega
  have hback : more = "Combined()".toList := by
    have hleft : more <:+ y ++ more ++ "\") = ".toList ++ (y ++ more) := by
      rw [← List.append_assoc]
      exact List.suffix_append _ _
    have hright : "Combined()".toList <:+ y ++ more ++ "\") = ".toList ++ (y ++ more) := by
      rw [h]
      exact List.IsSuffix.trans (by decide) (List.suffix_append _ _)
    exact (List.suffix_of_suffix_length_le hleft hright (by simp [hmore])).eq_of_length hmore
  subst hback
  simp at h

theorem conversion_unique {x y : List Char} {a b : ValueKind}
    (h : x ++ "\") = ".toList ++ x ++ (conversion a).toList =
      y ++ "\") = ".toList ++ y ++ (conversion b).toList) :
    x = y ∧ conversion a = conversion b := by
  have hlength := congrArg List.length h
  simp only [List.length_append, String.length_toList] at hlength
  by_cases hsame : conversion a = conversion b
  · rw [hsame] at h hlength
    have hxy := List.append_inj_right (List.append_cancel_right h) ?_
    · exact ⟨hxy, hsame⟩
    · simp only [List.length_append]
      omega
  · -- the lengths differ by an even number only between no conversion and that of dates
    have hshort : ¬(conversion a = "" ∧ conversion b = conversion .date) := by
      rintro ⟨ha, hb⟩
      rw [ha, hb] at h
      exact append_ne_append_date x y (by simpa using h)
    have hlong : ¬(conversion b = "" ∧ conversion a = conversion .date) := by
      rintro ⟨hb, ha⟩
      rw [ha, hb] at h
      exact append_ne_append_date y x (by simpa using h.symm)
    have hnumber : ".GetValue()".length = 11 := by decide
    have hdate : ".FormatISOCombined()".length = 20 := by decide
    cases a <;> cases b <;> simp [conversion, hnumber, hdate] at hlength hsame hshort hlong <;>
      omega

theorem reportValue_eq (f : Field) : Member.reportValue f = f.name ++ conversion f.kind := by
  rw [Member.reportValue]
  cases f.kind <;> simp [conversion]

theorem readSlot_reportSlot (target : String) (f : Field) :
    readSlot? target (reportSlot target f) = some (f.name, conversion f.kind) := by
  let slot := f.name ++ "\") = " ++ f.name ++ conversion f.kind
  have hslot : between? ("    " ++ target ++ "(L\"") ";" (reportSlot target f) = some slot := by
    rw [between?_eq_some_iff, reportSlot, reportValue_eq]
    simp only [slot, String.append_assoc]
  have hfound : ∃ kind ∈ [ValueKind.text, .integer, .date],
      readConverted? kind slot = some (f.name, conversion f.kind) := by
    simp only [readConverted?_eq_some_iff]
    cases hkind : f.kind <;> simp [slot, hkind, conversion]
  rw [readSlot?, hslot, Option.bind_eq_bind, Option.bind_some]
  cases hread : [ValueKind.text, .integer, .date].findSome? (readConverted? · slot) with
  | none =>
    obtain ⟨kind, hmem, hkind⟩ := hfound
    rw [List.findSome?_eq_none_iff.mp hread kind hmem] at hkind
    cases hkind
  | some found =>
    obtain ⟨kind, -, hkind⟩ := List.exists_of_findSome?_eq_some hread
    obtain ⟨hsame, htext⟩ := readConverted?_eq_some_iff.mp hkind
    have hunique := conversion_unique (x := f.name.toList) (y := found.1.toList) (a := f.kind)
      (b := kind) (by simpa only [slot, String.toList_append] using congrArg String.toList hsame)
    rw [String.toList_inj] at hunique
    rw [hunique.1, hunique.2, ← htext]

theorem filterMap_toHtmlRow (t : Table) :
    (toHtmlRow t).filterMap (readSlot? "row") =
      t.fields.declared.map fun f => (f.name, conversion f.kind) := by
  have hhead : readSlot? "row" ("row_t " ++ t.rowClass ++ "::to_html_row() const") = none := by
    rw [readSlot?, between?_eq_none_of_head (by decide) (by simp)]
    rfl
  have hfirst : ["    row_t row;", ""].filterMap (readSlot? "row") = [] := by decide
  have hreturn : ["", "    return row;"].filterMap (readSlot? "row") = [] := by decide
  rw [toHtmlRow, filterMap_block (by simpa using hhead) (by decide), List.filterMap_append,
    List.filterMap_append, hfirst, hreturn, List.append_nil, List.nil_append,
    filterMap_map_eq (readSlot_reportSlot "row")]

theorem filterMap_toHtmlTemplate (t : Table) :
    (toHtmlTemplate t).filterMap (readSlot? "t") =
      t.fields.declared.map fun f => (f.name, conversion f.kind) := by
  have hhead : readSlot? "t"
      ("void " ++ t.rowClass ++ "::to_html_template(html_template& t) const") = none := by
    rw [readSlot?, between?_eq_none_of_head (by decide) (by simp)]
    rfl
  rw [toHtmlTemplate, filterMap_block (by simpa using hhead) (by decide),
    filterMap_map_eq (readSlot_reportSlot "t")]

-- The call that writes a value of a kind, in front of the member and behind it.
def jsonCallParts : ValueKind → String × String
  | .integer => ("Int64(", ".GetValue());")
  | .real => ("Double(", ");")
  | .text => ("String(", ".utf8_str());")
  | .date => ("String(", ".FormatISOCombined().utf8_str());")

def jsonCallLine (name : String) (kind : ValueKind) : String :=
  "    json_writer." ++ (jsonCallParts kind).1 ++ name ++ (jsonCallParts kind).2

-- A key that is written as JSON.
def readKey? (line : String) : Option String := between? "    json_writer.Key(\"" "\");" line

-- The kind of values that the call in a line writes for a member.
def readCall? (name line : String) : Option ValueKind :=
  [ValueKind.integer, .real, .text, .date].find? (jsonCallLine name · = line)

-- The keys that are written, each with the kind of the value written right behind it.
def readPairs : List String → List (String × Option ValueKind)
  | line :: next :: rest =>
    match readKey? line with
    | some name => (name, readCall? name next) :: readPairs (next :: rest)
    | none => readPairs (next :: rest)
  | _ => []

theorem jsonCallParts_injective : jsonCallParts.Injective := by
  intro a b
  cases a <;> cases b <;> decide

-- The first letter tells how a call begins.
theorem jsonCallParts_fst_eq {a b : ValueKind}
    (h : (jsonCallParts a).1.toList.head? = (jsonCallParts b).1.toList.head?) :
    (jsonCallParts a).1 = (jsonCallParts b).1 := by
  revert h
  cases a <;> cases b <;> decide

theorem jsonCallLine_injective (name : String) : (jsonCallLine name).Injective := by
  intro a b h
  unfold jsonCallLine at h
  simp only [String.append_assoc, String.append_right_inj] at h
  have hne (kind : ValueKind) : (jsonCallParts kind).1.toList ≠ [] := by
    cases kind <;> decide
  have hopen : (jsonCallParts a).1 = (jsonCallParts b).1 := by
    have hhead := congrArg (fun s : String => s.toList.head?) h
    refine jsonCallParts_fst_eq ?_
    simpa only [String.toList_append, List.head?_append_of_ne_nil _ (hne _)] using hhead
  rw [hopen, String.append_right_inj, String.append_right_inj] at h
  exact jsonCallParts_injective (Prod.ext hopen h)

theorem jsonCall_eq (f : Field) : "    " ++ Member.jsonCall f = jsonCallLine f.name f.kind := by
  have hline (s t u : String) (h : "    " ++ s = "    json_writer." ++ t) :
      "    " ++ (s ++ f.name ++ u) = "    json_writer." ++ t ++ f.name ++ u := by
    rw [← h]
    simp only [String.append_assoc]
  unfold Member.jsonCall jsonCallLine
  cases f.kind with
  | integer => exact hline "json_writer.Int64(" "Int64(" ".GetValue());" (by decide)
  | real => exact hline "json_writer.Double(" "Double(" ");" (by decide)
  | text => exact hline "json_writer.String(" "String(" ".utf8_str());" (by decide)
  | date =>
    exact hline "json_writer.String(" "String(" ".FormatISOCombined().utf8_str());" (by decide)

theorem readCall_jsonCall (f : Field) :
    readCall? f.name ("    " ++ Member.jsonCall f) = some f.kind := by
  cases hread : readCall? f.name ("    " ++ Member.jsonCall f) with
  | none =>
    have hmem : f.kind ∈ [ValueKind.integer, .real, .text, .date] := by cases f.kind <;> decide
    have hnot := List.find?_eq_none.mp hread f.kind hmem
    exact absurd (jsonCall_eq f).symm (by simpa using hnot)
  | some kind =>
    have hline : jsonCallLine f.name kind = "    " ++ Member.jsonCall f := by
      simpa using List.find?_some hread
    rw [jsonCallLine_injective f.name (hline.trans (jsonCall_eq f))]

theorem readKey_jsonCall (f : Field) : readKey? ("    " ++ Member.jsonCall f) = none := by
  rw [readKey?, Option.eq_none_iff_forall_ne_some]
  intro inner hinner
  have hkey : "    json_writer.Key(\"" = "    json_writer." ++ "Key(\"" := by decide
  rw [between?_eq_some_iff, jsonCall_eq, hkey] at hinner
  unfold jsonCallLine at hinner
  simp only [String.append_assoc, String.append_right_inj] at hinner
  have hhead := congrArg (fun s : String => s.toList.head?) hinner
  cases hkind : f.kind <;> simp [hkind, jsonCallParts] at hhead

theorem readPairs_of_none {line : String} {rest : List String} (h : readKey? line = none) :
    readPairs (line :: rest) = readPairs rest := by
  cases rest with
  | nil => rfl
  | cons next rest => rw [readPairs, h]

theorem readPairs_jsonPair (f : Field) (rest : List String) :
    readPairs (jsonPair f ++ rest) = (f.name, some f.kind) :: readPairs rest := by
  have hkey : readKey? ("    json_writer.Key(\"" ++ f.name ++ "\");") = some f.name :=
    between?_eq_some_iff.mpr rfl
  simp only [jsonPair, List.cons_append, List.nil_append, readPairs, hkey, readCall_jsonCall,
    readPairs_of_none (readKey_jsonCall f)]

theorem readPairs_jsonPairs (fields : List Field) (rest : List String) :
    readPairs (jsonPairs fields ++ rest) =
      fields.map (fun f => (f.name, some f.kind)) ++ readPairs rest := by
  induction fields with
  | nil => rfl
  | cons f fields ih =>
    cases fields with
    | nil => exact readPairs_jsonPair f rest
    | cons next fields =>
      rw [jsonPairs, List.append_assoc, List.append_assoc, readPairs_jsonPair,
        List.singleton_append, readPairs_of_none (by decide), ih]
      · rfl
      · simp

theorem readPairs_asJson (t : Table) :
    readPairs (asJson t) = t.fields.declared.map fun f => (f.name, some f.kind) := by
  have hhead : readKey? ("void " ++ t.rowClass ++
      "::as_json(PrettyWriter<StringBuffer>& json_writer) const") = none :=
    between?_eq_none_of_head (by decide) (by simp)
  simp only [asJson, block, List.cons_append, List.nil_append]
  rw [readPairs_of_none (by decide), readPairs_of_none (by decide), readPairs_of_none hhead,
    readPairs_of_none (by decide), readPairs_jsonPairs]
  exact List.append_nil _

end TableForge.Code.TableImplementation
