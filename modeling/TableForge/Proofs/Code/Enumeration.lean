import TableForge.Code.TableImplementation
import TableForge.Code.TableInterface
import TableForge.Proofs.Code.StringLiteral
import TableForge.Proofs.Text.Lines
import TableForge.Proofs.Text.Word

namespace TableForge.Code

open Text

section Enumerators

-- An enumerator in a line: its name, and the value that it is given, if any.
def readEnumerator? (line : String) : Option (String × Option Nat) := do
  let rest ← between? "        " "" line
  let item := (between? "" "," rest).getD rest
  match lastWord? Char.isDigit " = " item with
  | some (name, digits) => return (name, some (Nat.ofDigitChars 10 digits.toList 0))
  | none => return (item, none)

-- The values of enumerators: one that is given none has one more than the one before it.
def numbered : Nat → List (String × Option Nat) → List (String × Nat)
  | _, [] => []
  | next, (name, given) :: rest =>
    let value := given.getD next
    (name, value) :: numbered (value + 1) rest

-- The enumeration of the columns in an interface.
def readEnumeration (lines : List String) : List (String × Nat) :=
  numbered 0 (((lines.dropWhile (· ≠ "    enum COL_ID")).takeWhile (· ≠ "    \x7d;")).filterMap
    readEnumerator?)

theorem readEnumerator_first (name : String) :
    readEnumerator? ("        " ++ name ++ " = 0,") = some (name, some 0) := by
  have hline : between? "        " "" ("        " ++ name ++ " = 0,") = some (name ++ " = 0,") := by
    rw [between?_eq_some_iff, String.append_empty, String.append_assoc]
  have hitem : between? "" "," (name ++ " = 0,") = some (name ++ " = " ++ "0") := by
    have hend : " = 0," = " = " ++ "0" ++ "," := by decide
    rw [between?_eq_some_iff, String.empty_append, hend]
    simp only [String.append_assoc]
  have hvalue : lastWord? Char.isDigit " = " (name ++ " = " ++ "0") = some (name, "0") :=
    lastWord?_append (by decide) (c := ' ') (by decide) (by decide)
  rw [readEnumerator?, hline]
  simp only [Option.bind_eq_bind, Option.bind_some, hitem, Option.getD_some, hvalue]
  rfl

theorem readEnumerator_next {name : String} (h : ' ' ∉ name.toList) :
    readEnumerator? ("        " ++ name ++ ",") = some (name, none) := by
  have hline : between? "        " "" ("        " ++ name ++ ",") = some (name ++ ",") := by
    rw [between?_eq_some_iff, String.append_empty, String.append_assoc]
  have hitem : between? "" "," (name ++ ",") = some name := by
    rw [between?_eq_some_iff, String.empty_append]
  have hvalue : lastWord? Char.isDigit " = " name = none := by
    rw [Option.eq_none_iff_forall_ne_some]
    rintro ⟨front, digits⟩ hfront
    have hmem : ' ' ∈ name.toList := by
      rw [(of_lastWord? hfront).1]
      simp
    exact h hmem
  rw [readEnumerator?, hline]
  simp only [Option.bind_eq_bind, Option.bind_some, hitem, Option.getD_some, hvalue]
  rfl

theorem numbered_none (next : Nat) (names : List String) :
    numbered next (names.map (·, none)) = names.zipIdx next := by
  induction names generalizing next with
  | nil => rfl
  | cons name rest ih => simp [numbered, ih]

theorem filterMap_enumerators {t : Table} (h : ∀ f ∈ t.fields.others, ' ' ∉ f.columnId.toList) :
    (TableInterface.enumerators t).filterMap readEnumerator? =
      (t.fields.key.columnId, some 0) ::
        (t.fields.others.map (·.columnId) ++ ["COL_ID_size"]).map (·, none) := by
  have hothers : (t.fields.others.map fun f => "        " ++ f.columnId ++ ",").filterMap
      readEnumerator? = t.fields.others.map fun f => (f.columnId, none) := by
    rw [List.filterMap_map, ← List.filterMap_eq_map]
    exact List.filterMap_congr fun f hf => readEnumerator_next (h f hf)
  have hlast : ["        COL_ID_size"].filterMap readEnumerator? = [("COL_ID_size", none)] := by
    decide
  simp only [TableInterface.enumerators, KeyedFields.keyFirst, List.filterMap_append, hothers,
    hlast, List.filterMap_cons_some (readEnumerator_first _), List.cons_append, List.map_append,
    List.map_map]
  rfl

-- The constants in an interface, and what is around them.
theorem lines_around_enumerators (t : Table) :
    ∃ front rest, TableInterface.lines t = front ++
        (("    enum COL_ID" :: "    \x7b" :: TableInterface.enumerators t) ++
          "    \x7d;" :: rest) ∧
      ∀ line ∈ front, line ≠ "    enum COL_ID" := by
  refine ⟨["", "#pragma once", "", "#include \"_TableBase.h\"", "",
    "// Columns in database table " ++ t.name, "struct " ++ t.columnClass, "\x7b"],
    ["", "    static const wxArrayString COL_NAME_A;",
      "    static const COL_ID PRIMARY_ID;", "    static const wxString PRIMARY_NAME;", "",
      "    static wxString col_name(COL_ID col_id) \x7b return COL_NAME_A[col_id]; \x7d"] ++
      t.fields.keyFirst.flatMap TableInterface.condition ++ ["\x7d;"] ++
      TableInterface.rowClass t ++ TableInterface.tableClass t ++ TableInterface.inlineMembers t,
    ?_, ?_⟩
  · rw [TableInterface.lines, TableInterface.columnClass]
    simp only [List.cons_append, List.nil_append, List.append_assoc]
  · rintro line hline rfl
    simp [← String.toList_inj] at hline

-- They are read back in their order, numbered from zero.
theorem readEnumeration_lines {t : Table}
    (h : ∀ f ∈ t.fields.others, ' ' ∉ f.columnId.toList) :
    readEnumeration (TableInterface.lines t) =
      (t.fields.keyFirst.map (·.columnId) ++ ["COL_ID_size"]).zipIdx := by
  obtain ⟨front, rest, hlines, hfront⟩ := lines_around_enumerators t
  have hbefore : ∀ line ∈ front, decide (line ≠ "    enum COL_ID") = true := fun line hline =>
    decide_eq_true (hfront line hline)
  have hwithin : ∀ line ∈ "    enum COL_ID" :: "    \x7b" :: TableInterface.enumerators t,
      decide (line ≠ "    \x7d;") = true := by
    intro line hline
    rw [decide_eq_true_iff]
    rintro rfl
    simp [TableInterface.enumerators, KeyedFields.keyFirst, ← String.toList_inj] at hline
  rw [readEnumeration, hlines, List.dropWhile_append_of_pos hbefore, List.cons_append,
    List.dropWhile_cons_of_neg (by simp), ← List.cons_append,
    List.takeWhile_append_of_pos hwithin, List.takeWhile_cons_of_neg (by simp), List.append_nil,
    List.filterMap_cons_none (by decide), List.filterMap_cons_none (by decide),
    filterMap_enumerators h]
  simp only [numbered, numbered_none, Option.getD_some, KeyedFields.keyFirst, List.map_cons,
    List.cons_append, List.zipIdx_cons]

end Enumerators

section Names

variable {t : Table} {owner name : String}

-- The text of a string literal in a list, with or without a comma behind it.
def readName? (line : String) : Option String := do
  let literal ← (between? "    " "," line).or (between? "    " "" line)
  let text ← StringLiteral.decode? literal.toList
  return String.ofList text

-- The column names in an implementation, kept by a class.
def readNames (owner : String) (lines : List String) : List String :=
  ((lines.dropWhile (· ≠ "const wxArrayString " ++ owner ++ "::COL_NAME_A = \x7b")).takeWhile
    (· ≠ "\x7d;")).filterMap readName?

-- The constant that stands for the key.
def readPrimary? (owner : String) (lines : List String) : Option String :=
  lines.findSome?
    (between? ("const " ++ owner ++ "::COL_ID " ++ owner ++ "::PRIMARY_ID = ") ";")

theorem decode_quoted (h : IsWord name) :
    StringLiteral.decode? ("\"" ++ name ++ "\"").toList = some name.toList := by
  have hescape : name.toList.flatMap StringLiteral.escapeChar = name.toList := by
    rw [List.flatMap_congr (g := fun c => [c]) fun c hc => ?_, List.flatMap_singleton']
    have hne (d : Char) (hd : isWordChar d = false) : c ≠ d := by
      rintro rfl
      exact not_mem_of_isWord h hd hc
    rw [StringLiteral.escapeChar, if_neg (hne _ (by decide +kernel)),
      if_neg (hne _ (by decide +kernel)), if_neg (hne _ (by decide +kernel))]
  have hline : StringLiteral.OneLine name.toList := fun c hc =>
    ⟨fun h' => not_mem_of_isWord h (by decide +kernel) (h' ▸ hc),
      fun h' => not_mem_of_isWord h (by decide +kernel) (h' ▸ hc)⟩
  have hquoted : ("\"" ++ name ++ "\"").toList =
      '"' :: (name.toList.flatMap StringLiteral.escapeChar ++ ['"']) := by
    simp [hescape]
  rw [hquoted, StringLiteral.decode?, StringLiteral.readBody_escape hline]

theorem readName_quoted (h : IsWord name) : readName? ("    \"" ++ name ++ "\"") = some name := by
  have hcomma : between? "    " "," ("    \"" ++ name ++ "\"") = none :=
    between?_eq_none_of_tail (c := '"') (d := ',') (by decide) (by decide) (by decide)
  have hliteral : between? "    " "" ("    \"" ++ name ++ "\"") = some ("\"" ++ name ++ "\"") := by
    have hopen : "    \"" = "    " ++ "\"" := by decide
    rw [between?_eq_some_iff, hopen, String.append_empty]
    simp only [String.append_assoc]
  rw [readName?, hcomma, hliteral]
  simp only [Option.none_or, Option.bind_eq_bind, Option.bind_some, decode_quoted h,
    String.ofList_toList]
  rfl

theorem readName_comma (h : IsWord name) :
    readName? ("    \"" ++ name ++ "\"" ++ ",") = some name := by
  have hliteral : between? "    " "," ("    \"" ++ name ++ "\"" ++ ",") =
      some ("\"" ++ name ++ "\"") := by
    have hopen : "    \"" = "    " ++ "\"" := by decide
    rw [between?_eq_some_iff, hopen]
    simp only [String.append_assoc]
  rw [readName?, hliteral]
  simp only [Option.some_or, Option.bind_eq_bind, Option.bind_some, decode_quoted h,
    String.ofList_toList]
  rfl

theorem filterMap_quoted (names : List String) (h : ∀ name ∈ names, IsWord name) :
    (commaSeparated (names.map fun name => "    \"" ++ name ++ "\"")).filterMap readName? =
      names := by
  induction names with
  | nil => rfl
  | cons name rest ih =>
    obtain ⟨hname, hrest⟩ := List.forall_mem_cons.mp h
    cases rest with
    | nil =>
      simp only [List.map_cons, List.map_nil, commaSeparated]
      rw [List.filterMap_cons_some (readName_quoted hname), List.filterMap_nil]
    | cons next rest =>
      simp only [List.map_cons, commaSeparated] at ih ⊢
      rw [List.filterMap_cons_some (readName_comma hname), ih hrest]

theorem mem_commaSeparated {line : String} {lines : List String} (h : line ∈ commaSeparated lines) :
    line ∈ lines ∨ ∃ before ∈ lines, line = before ++ "," := by
  induction lines with
  | nil => simp [commaSeparated] at h
  | cons first rest ih =>
    cases rest with
    | nil => exact .inl h
    | cons next rest =>
      simp only [commaSeparated, List.mem_cons (l := commaSeparated _)] at h
      rcases h with rfl | h
      · exact .inr ⟨first, List.mem_cons_self, rfl⟩
      · rcases ih h with h | ⟨before, hmem, rfl⟩
        · exact .inl (List.mem_cons_of_mem _ h)
        · exact .inr ⟨before, List.mem_cons_of_mem _ hmem, rfl⟩

-- What an implementation begins with, up to the column names.
def implementationOpening (t : Table) : List String :=
  ["", "#include \"_TableFactory.tpp\"", "#include \"" ++ t.tableClass ++ ".h\"",
    "#include \"data/" ++ t.dataClass ++ ".h\"", "",
    "template class TableFactory<" ++ t.tableClass ++ ", " ++ t.dataClass ++ ">;",
    "template class mmCache<int64, " ++ t.dataClass ++ ">;"] ++ TableImplementation.columnNames t

theorem exists_lines_eq (t : Table) :
    ∃ rest, TableImplementation.lines t = implementationOpening t ++ rest :=
  ⟨_, by simp only [TableImplementation.lines, implementationOpening, List.append_assoc]; rfl⟩

theorem opening_around_names (t : Table) (rest : List String) :
    ∃ front more, implementationOpening t ++ rest = front ++
        ((("const wxArrayString " ++ t.columnClass ++ "::COL_NAME_A = \x7b") ::
          commaSeparated (t.fields.keyFirst.map fun f => "    \"" ++ f.name ++ "\"")) ++
        "\x7d;" :: "" :: ("const " ++ t.columnClass ++ "::COL_ID " ++ t.columnClass ++
          "::PRIMARY_ID = " ++ t.fields.key.columnId ++ ";") :: more) ∧
      ∀ line ∈ front, line.toList.head? ≠ some 'c' := by
  refine ⟨["", "#include \"_TableFactory.tpp\"", "#include \"" ++ t.tableClass ++ ".h\"",
    "#include \"data/" ++ t.dataClass ++ ".h\"", "",
    "template class TableFactory<" ++ t.tableClass ++ ", " ++ t.dataClass ++ ">;",
    "template class mmCache<int64, " ++ t.dataClass ++ ">;", "",
    "// List of column names in database table " ++ t.name ++ ",",
    "// in the order of " ++ t.columnClass ++ "::COL_ID."],
    ("const wxString " ++ t.columnClass ++ "::PRIMARY_NAME = COL_NAME_A[" ++
      t.fields.key.columnId ++ "];") :: rest, ?_, ?_⟩
  · simp only [implementationOpening, TableImplementation.columnNames, List.cons_append,
      List.nil_append, List.append_assoc]
  · simp only [List.forall_mem_cons]
    simp

theorem head_of_mem_quoted {line : String} {fields : List Field}
    (h : line ∈ commaSeparated (fields.map fun f => "    \"" ++ f.name ++ "\"")) :
    line.toList.head? = some ' ' := by
  rcases mem_commaSeparated h with hline | ⟨before, hline, rfl⟩
  · obtain ⟨f, -, rfl⟩ := List.mem_map.mp hline
    simp
  · obtain ⟨f, -, rfl⟩ := List.mem_map.mp hline
    simp

-- The column names are read back in their order, whatever comes behind them.
theorem readNames_opening (h : ∀ f ∈ t.fields.keyFirst, IsWord f.name) (rest : List String) :
    readNames t.columnClass (implementationOpening t ++ rest) =
      t.fields.keyFirst.map (·.name) := by
  obtain ⟨front, more, hopening, hfront⟩ := opening_around_names t rest
  rw [hopening]
  generalize hmark : "const wxArrayString " ++ t.columnClass ++ "::COL_NAME_A = \x7b" = mark
  have hhead : mark.toList.head? = some 'c' := by
    rw [← hmark]
    simp
  have hbefore : ∀ line ∈ front, decide (line ≠ mark) = true := by
    intro line hline
    refine decide_eq_true ?_
    rintro rfl
    exact hfront line hline hhead
  have hwithin : ∀ line ∈ mark :: commaSeparated (t.fields.keyFirst.map fun f =>
      "    \"" ++ f.name ++ "\""), decide (line ≠ "\x7d;") = true := by
    intro line hline
    refine decide_eq_true ?_
    rintro rfl
    rcases List.mem_cons.mp hline with rfl | hline
    · exact absurd hhead (by decide)
    · exact absurd (head_of_mem_quoted hline) (by decide)
  have hnone : readName? mark = none := by
    rw [readName?, between?_eq_none_of_head (by decide) (by rw [hhead]; decide),
      between?_eq_none_of_head (by decide) (by rw [hhead]; decide)]
    rfl
  have hnames := filterMap_quoted (t.fields.keyFirst.map (·.name)) (by simpa using h)
  rw [List.map_map] at hnames
  rw [readNames, hmark, List.dropWhile_append_of_pos hbefore, List.cons_append,
    List.dropWhile_cons_of_neg (by simp), ← List.cons_append,
    List.takeWhile_append_of_pos hwithin, List.takeWhile_cons_of_neg (by simp), List.append_nil,
    List.filterMap_cons_none hnone]
  exact hnames

theorem readPrimary_opening (t : Table) (rest : List String) :
    readPrimary? t.columnClass (implementationOpening t ++ rest) =
      some t.fields.key.columnId := by
  obtain ⟨front, more, hopening, hfront⟩ := opening_around_names t rest
  rw [hopening, readPrimary?]
  generalize hhead : "const " ++ t.columnClass ++ "::COL_ID " ++ t.columnClass ++
    "::PRIMARY_ID = " = head
  have hother (line : String) (hline : line.toList.head? ≠ some 'c') :
      between? head ";" line = none := by
    refine between?_eq_none_of_head ?_ ?_
    · rw [← hhead]
      simp [← String.toList_inj]
    · rw [← hhead]
      simpa using hline
  have hbefore : ∀ line ∈ front, between? head ";" line = none := fun line hline =>
    hother line (hfront line hline)
  have hquoted : ∀ line ∈ commaSeparated (t.fields.keyFirst.map fun f =>
      "    \"" ++ f.name ++ "\""), between? head ";" line = none := fun line hline =>
    hother line (by rw [head_of_mem_quoted hline]; decide)
  have hmark : between? head ";"
      ("const wxArrayString " ++ t.columnClass ++ "::COL_NAME_A = \x7b") = none :=
    between?_eq_none_of_tail (c := '\x7b') (d := ';') (by decide) (by decide) (by decide)
  have hprimary : between? head ";" (head ++ t.fields.key.columnId ++ ";") =
      some t.fields.key.columnId :=
    between?_eq_some_iff.mpr rfl
  rw [List.findSome?_append, List.findSome?_eq_none_iff.mpr hbefore, Option.none_or,
    List.findSome?_append, List.findSome?_cons, hmark, List.findSome?_eq_none_iff.mpr hquoted]
  simp only [List.findSome?_cons, hother "\x7d;" (by decide),
    hother "" (by decide), hprimary, Option.none_or]

theorem oneLine_opening (hname : IsWord t.name) (h : ∀ f ∈ t.fields.keyFirst, IsWord f.name) :
    ∀ line ∈ implementationOpening t, '\n' ∉ line.toList := by
  have hline : '\n' ∉ t.name.toList := not_mem_of_isWord hname (by decide +kernel)
  have hbase : '\n' ∉ t.classBase.toList :=
    not_mem_of_isWord (Naming.isWord_classBase hname) (by decide +kernel)
  have hid : '\n' ∉ t.fields.key.columnId.toList := fun hmem =>
    absurd (Field.le_toNat_of_mem_columnId (h _ List.mem_cons_self) hmem) (by decide)
  have hquoted : ∀ line ∈ commaSeparated (t.fields.keyFirst.map fun f => "    \"" ++ f.name ++ "\""),
      '\n' ∉ line.toList := by
    intro line hmem
    rcases mem_commaSeparated hmem with hline | ⟨before, hline, rfl⟩
    · obtain ⟨f, hf, rfl⟩ := List.mem_map.mp hline
      simp [not_mem_of_isWord (h f hf) (by decide +kernel : isWordChar '\n' = false)]
    · obtain ⟨f, hf, rfl⟩ := List.mem_map.mp hline
      simp [not_mem_of_isWord (h f hf) (by decide +kernel : isWordChar '\n' = false)]
  simp only [implementationOpening, TableImplementation.columnNames, List.forall_mem_append]
  refine ⟨?_, ⟨?_, hquoted⟩, ?_⟩
  · simp [Table.tableClass, Table.dataClass, hbase]
  · simp [Table.columnClass, hline, hbase]
  · simp [Table.columnClass, hbase, hid]

end Names

end TableForge.Code
