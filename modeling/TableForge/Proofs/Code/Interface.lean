import TableForge.Code.DataInterface
import TableForge.Code.TableInterface
import TableForge.Proofs.Code.Declaration
import TableForge.Proofs.Table.Fields

namespace TableForge.Code

open Text

section Members

variable {owner : String} {fields : KeyedFields}

theorem inert_constructors (h : IsWord owner) : ∀ line ∈ Member.constructors owner, Inert line := by
  obtain ⟨hline, hcondition⟩ := marks_not_mem h
  simp [Member.constructors, inert_iff, hline, hcondition]

theorem inert_keyAccess (h : IsWord owner) : ∀ line ∈ Member.keyAccess owner, Inert line := by
  obtain ⟨hline, hcondition⟩ := marks_not_mem h
  simp [Member.keyAccess, inert_iff, hline, hcondition]

theorem inert_conversions (h : IsWord owner) : ∀ line ∈ Member.conversions owner, Inert line := by
  obtain ⟨hline, hcondition⟩ := marks_not_mem h
  simp [Member.conversions, inert_iff, hline, hcondition]

theorem inert_copies (h : IsWord owner) : ∀ line ∈ Member.copies owner, Inert line := by
  obtain ⟨hline, hcondition⟩ := marks_not_mem h
  simp [Member.copies, inert_iff, hline, hcondition]

theorem inert_sorter {f : Field} (h : IsWord owner) (hf : IsWord f.name) :
    ∀ line ∈ Member.sorter owner f, Inert line := by
  obtain ⟨hline, hcondition⟩ := marks_not_mem h
  obtain ⟨hline', hcondition'⟩ := marks_not_mem hf
  have hcomparison : ∀ line ∈ Member.comparison f, Inert line := by
    unfold Member.comparison
    cases Sorting.ofField f.name <;> simp [inert_iff, hline', hcondition']
  simp only [Member.sorter, List.forall_mem_append]
  refine ⟨⟨?_, hcomparison⟩, ?_⟩
  · simp [inert_iff, hline, hline', hcondition, hcondition']
  · simp [inert_iff]

theorem inert_cloneFrom (h : IsWord owner) : ∀ line ∈ Member.cloneFrom owner, Inert line := by
  obtain ⟨hline, hcondition⟩ := marks_not_mem h
  simp [Member.cloneFrom, block, inert_iff, hline, hcondition]

theorem inert_resultConstructor (h : IsWord owner) :
    ∀ line ∈ Member.resultConstructor owner, Inert line := by
  obtain ⟨hline, hcondition⟩ := marks_not_mem h
  simp [Member.resultConstructor, block, inert_iff, hline, hcondition]

end Members

section Declarations

variable {fields : KeyedFields}

-- The members in the order of their declarations, the key marked.
theorem filterMap_declarations (h : ∀ f ∈ fields.keyFirst, IsWord f.name) :
    (Member.declarations fields).filterMap readMember? =
      (fields.key.name, fields.key.kind, true) ::
        fields.others.map fun f => (f.name, f.kind, false) := by
  obtain ⟨hkey, hothers⟩ := List.forall_mem_cons.mp h
  rw [Member.declarations, List.filterMap_cons_some (readMember_key hkey _), List.filterMap_map,
    ← List.filterMap_eq_map]
  congr 1
  exact List.filterMap_congr fun f hf => readMember_other (hothers f hf) f.kind

theorem declarations_marks (h : ∀ f ∈ fields.keyFirst, IsWord f.name) :
    ∀ line ∈ Member.declarations fields, '\n' ∉ line.toList ∧ '>' ∉ line.toList := by
  have hmarks {f : Field} (hf : f ∈ fields.keyFirst) (tail : String) (hline : '\n' ∉ tail.toList)
      (hmark : '>' ∉ tail.toList) :
      '\n' ∉ ("    " ++ f.kind.memberType ++ " " ++ f.name ++ tail).toList ∧
        '>' ∉ ("    " ++ f.kind.memberType ++ " " ++ f.name ++ tail).toList := by
    obtain ⟨hline', hmark'⟩ := marks_not_mem (h f hf)
    cases f.kind <;> simp [ValueKind.memberType, hline, hline', hmark, hmark']
  rw [Member.declarations, List.forall_mem_cons, List.forall_mem_map]
  exact ⟨hmarks List.mem_cons_self _ (by decide) (by decide),
    fun f hf => hmarks (List.mem_cons_of_mem _ hf) _ (by decide) (by decide)⟩

theorem filterMap_condition (f : Field) :
    (TableInterface.condition f).filterMap readCondition? = [(f.name, f.kind)] := by
  have hrest : ∀ line ∈ (TableInterface.condition f).drop 2, readCondition? line = none := by
    intro line hline
    refine readCondition_eq_none (.inr ?_)
    revert line
    simp [TableInterface.condition]
  have hsplit : TableInterface.condition f =
      "" :: ("    struct " ++ f.name ++ " : public TableOpV<" ++ f.kind.memberType ++ ">") ::
        (TableInterface.condition f).drop 2 := rfl
  rw [hsplit, List.filterMap_cons_none (by decide),
    List.filterMap_cons_some (readCondition_struct f.name f.kind),
    List.filterMap_eq_nil_iff.mpr hrest]

theorem condition_marks {f : Field} (h : IsWord f.name) (hid : '\n' ∉ f.columnId.toList) :
    ∀ line ∈ TableInterface.condition f, '\n' ∉ line.toList ∧ readMember? line = none := by
  have hline := (marks_not_mem h).1
  have hmember : ∀ line ∈ TableInterface.condition f,
      ∀ c ∈ ['w', 'd', 'i'], line.toList.take 5 ≠ [' ', ' ', ' ', ' ', c] := by
    simp [TableInterface.condition]
  have honeLine : ∀ line ∈ TableInterface.condition f, '\n' ∉ line.toList := by
    cases hkind : f.kind <;>
      simp [TableInterface.condition, hkind, ValueKind.memberType, hline, hid]
  exact fun line hmem => ⟨honeLine line hmem, readMember_eq_none (.inr (hmember line hmem))⟩

end Declarations

section TableInterface

variable {t : Table}

theorem isWord_class (h : IsWord t.name) (suffix : String) (hsuffix : IsWord suffix) :
    IsWord (t.classBase ++ suffix) :=
  isWord_append.mpr ⟨Naming.isWord_classBase h, hsuffix⟩

theorem inert_enumerators (h : ∀ f ∈ t.fields.keyFirst, IsWord f.name) :
    ∀ line ∈ TableInterface.enumerators t, Inert line := by
  have hid {f : Field} (hf : f ∈ t.fields.keyFirst) : '\n' ∉ f.columnId.toList := fun hmem =>
    absurd (Field.le_toNat_of_mem_columnId (h f hf) hmem) (by decide)
  obtain ⟨hkey, hothers⟩ := List.forall_mem_cons.mp fun f hf => hid (f := f) hf
  simp only [TableInterface.enumerators, KeyedFields.keyFirst, List.cons_append,
    List.forall_mem_cons, List.forall_mem_append, List.forall_mem_map]
  refine ⟨?_, fun f hf => ?_, ?_⟩
  · simp [inert_iff, hkey]
  · simp [inert_iff, hothers f hf]
  · simp [inert_iff]

theorem inert_matchMembers (h : ∀ f ∈ t.fields.declared, IsWord f.name) :
    ∀ line ∈ TableInterface.matchMembers t, Inert line := by
  have hcondition {f : Field} (hf : f ∈ t.fields.declared) :
      ∀ line ∈ TableInterface.matchCondition f, Inert line := by
    obtain ⟨hline, hmark⟩ := marks_not_mem (h f hf)
    unfold TableInterface.matchCondition Member.matchTest
    cases f.kind <;> simp [inert_iff, hline, hmark]
  simp only [TableInterface.matchMembers, List.forall_mem_append, List.forall_mem_flatMap]
  refine ⟨⟨?_, ?_⟩, ?_⟩
  · simp [inert_iff]
  · intro f hf
    exact hcondition hf
  · simp [inert_iff]

theorem inert_tableClass (h : IsWord t.name) :
    ∀ line ∈ TableInterface.tableClass t, Inert line := by
  obtain ⟨hname, hname'⟩ := marks_not_mem h
  obtain ⟨hclass, hclass'⟩ : '\n' ∉ t.classBase.toList ∧ '>' ∉ t.classBase.toList :=
    marks_not_mem (Naming.isWord_classBase h)
  have hseed : ∀ line ∈ TableInterface.seedDeclaration t, Inert line := by
    unfold TableInterface.seedDeclaration
    split <;> simp [inert_iff]
  simp only [TableInterface.tableClass, List.forall_mem_append]
  refine ⟨⟨?_, hseed⟩, ?_⟩
  · simp [Table.tableClass, Table.rowClass, inert_iff, hname, hname', hclass, hclass']
  · simp [inert_iff]

theorem inert_inlineMembers (h : IsWord t.name) :
    ∀ line ∈ TableInterface.inlineMembers t, Inert line := by
  have hrow := isWord_class h "Row" (by decide +kernel)
  obtain ⟨hline, hmark⟩ := marks_not_mem hrow
  simp only [TableInterface.inlineMembers, List.forall_mem_append]
  refine ⟨⟨inert_resultConstructor hrow, ?_⟩, inert_cloneFrom hrow⟩
  simp [block, Table.rowClass] at hline hmark ⊢
  simp [inert_iff, hline, hmark]

-- An interface declares conditions and members, and its other lines declare neither.
theorem lines_around_declarations (hname : IsWord t.name)
    (h : ∀ f ∈ t.fields.keyFirst, IsWord f.name) :
    ∃ before between after, TableInterface.lines t =
        before ++ t.fields.keyFirst.flatMap TableInterface.condition ++ between ++
          Member.declarations t.fields ++ after ∧
      (∀ line ∈ before, Inert line) ∧ (∀ line ∈ between, Inert line) ∧
        ∀ line ∈ after, Inert line := by
  have hrow := isWord_class hname "Row" (by decide +kernel)
  have hkey := h _ List.mem_cons_self
  have hdeclared : ∀ f ∈ t.fields.declared, IsWord f.name := fun f hf =>
    h f (t.fields.keyFirst_perm.mem_iff.mpr hf)
  obtain ⟨hline, hmark⟩ := marks_not_mem hname
  obtain ⟨hbase, hbase'⟩ : '\n' ∉ t.classBase.toList ∧ '>' ∉ t.classBase.toList :=
    marks_not_mem (Naming.isWord_classBase hname)
  refine ⟨["", "#pragma once", "", "#include \"_TableBase.h\"", "",
      "// Columns in database table " ++ t.name, "struct " ++ t.columnClass, "\x7b",
      "    enum COL_ID", "    \x7b"] ++ TableInterface.enumerators t ++
      ["    \x7d;", "", "    static const wxArrayString COL_NAME_A;",
        "    static const COL_ID PRIMARY_ID;", "    static const wxString PRIMARY_NAME;", "",
        "    static wxString col_name(COL_ID col_id) \x7b return COL_NAME_A[col_id]; \x7d"],
    ["\x7d;", "", "// A single record in database table " ++ t.name, "struct " ++ t.rowClass, "\x7b",
      "    using Col = " ++ t.columnClass ++ ";", ""],
    Member.constructors t.rowClass ++ Member.keyAccess t.fields.key.name ++
      Member.conversions t.rowClass ++ Member.copies t.rowClass ++ TableInterface.matchMembers t ++
      Member.sorters t.rowClass t.fields ++ ["\x7d;"] ++ TableInterface.tableClass t ++
      TableInterface.inlineMembers t, ?_, ?_, ?_, ?_⟩
  · rw [TableInterface.lines, TableInterface.columnClass, TableInterface.rowClass]
    simp only [List.cons_append, List.nil_append, List.append_assoc]
  · simp only [List.forall_mem_append]
    refine ⟨⟨?_, inert_enumerators h⟩, ?_⟩
    · simp [Table.columnClass, inert_iff, hline, hmark, hbase, hbase']
    · simp [inert_iff]
  · simp [Table.rowClass, Table.columnClass, inert_iff, hline, hmark, hbase, hbase']
  · simp only [List.forall_mem_append]
    refine ⟨⟨⟨⟨⟨⟨⟨⟨inert_constructors hrow, inert_keyAccess hkey⟩, inert_conversions hrow⟩,
      inert_copies hrow⟩, inert_matchMembers hdeclared⟩, ?_⟩, ?_⟩, inert_tableClass hname⟩,
      inert_inlineMembers hname⟩
    · rw [Member.sorters, List.forall_mem_flatMap]
      exact fun f hf => inert_sorter hrow (hdeclared f hf)
    · simp [inert_iff]

theorem oneLine_columnId {f : Field} (h : IsWord f.name) : '\n' ∉ f.columnId.toList := fun hmem =>
  absurd (Field.le_toNat_of_mem_columnId h hmem) (by decide)

theorem oneLine_interface (hname : IsWord t.name) (h : ∀ f ∈ t.fields.keyFirst, IsWord f.name) :
    ∀ line ∈ TableInterface.lines t, '\n' ∉ line.toList := by
  obtain ⟨before, between, after, hlines, hbefore, hbetween, hafter⟩ :=
    lines_around_declarations hname h
  rw [hlines]
  simp only [List.forall_mem_append, List.forall_mem_flatMap]
  exact ⟨⟨⟨⟨fun line hline => (hbefore line hline).oneLine,
    fun f hf line hline => (condition_marks (h f hf) (oneLine_columnId (h f hf)) line hline).1⟩,
    fun line hline => (hbetween line hline).oneLine⟩,
    fun line hline => (declarations_marks h line hline).1⟩,
    fun line hline => (hafter line hline).oneLine⟩

-- The members of the row class and no others, the key first and marked.
theorem filterMap_readMember_interface (hname : IsWord t.name)
    (h : ∀ f ∈ t.fields.keyFirst, IsWord f.name) :
    (TableInterface.lines t).filterMap readMember? =
      (t.fields.key.name, t.fields.key.kind, true) ::
        t.fields.others.map fun f => (f.name, f.kind, false) := by
  obtain ⟨before, between, after, hlines, hbefore, hbetween, hafter⟩ :=
    lines_around_declarations hname h
  have hconditions : (t.fields.keyFirst.flatMap TableInterface.condition).filterMap readMember? =
      [] := by
    rw [List.filterMap_eq_nil_iff, List.forall_mem_flatMap]
    exact fun f hf line hline =>
      (condition_marks (h f hf) (oneLine_columnId (h f hf)) line hline).2
  rw [hlines, List.filterMap_append, List.filterMap_append, List.filterMap_append,
    List.filterMap_append, (filterMap_of_inert hbefore).1, (filterMap_of_inert hbetween).1,
    (filterMap_of_inert hafter).1, hconditions, filterMap_declarations h]
  simp

-- The conditions on the columns and no others, those on the key first.
theorem filterMap_readCondition_interface (hname : IsWord t.name)
    (h : ∀ f ∈ t.fields.keyFirst, IsWord f.name) :
    (TableInterface.lines t).filterMap readCondition? =
      t.fields.keyFirst.map fun f => (f.name, f.kind) := by
  obtain ⟨before, between, after, hlines, hbefore, hbetween, hafter⟩ :=
    lines_around_declarations hname h
  have hconditions : (t.fields.keyFirst.flatMap TableInterface.condition).filterMap
      readCondition? = t.fields.keyFirst.map fun f => (f.name, f.kind) := by
    rw [List.filterMap_flatMap, List.map_eq_flatMap]
    exact List.flatMap_congr fun f _ => filterMap_condition f
  have hdeclarations : (Member.declarations t.fields).filterMap readCondition? = [] :=
    List.filterMap_eq_nil_iff.mpr fun line hline =>
      readCondition_eq_none (.inl (declarations_marks h line hline).2)
  rw [hlines, List.filterMap_append, List.filterMap_append, List.filterMap_append,
    List.filterMap_append, (filterMap_of_inert hbefore).2, (filterMap_of_inert hbetween).2,
    (filterMap_of_inert hafter).2, hconditions, hdeclarations]
  simp

end TableInterface

section DataInterface

variable {t : Table}

theorem inert_remarks (h : IsWord t.name) : ∀ line ∈ DataInterface.remarks t, Inert line := by
  obtain ⟨hline, hmark⟩ : '\n' ∉ t.classBase.toList ∧ '>' ∉ t.classBase.toList :=
    marks_not_mem (Naming.isWord_classBase h)
  simp [DataInterface.remarks, Table.tableClass, inert_iff, hline, hmark]

theorem inert_delegate {result owner signature call : String} (hresult : '\n' ∉ result.toList)
    (howner : '\n' ∉ owner.toList) (hsignature : '\n' ∉ signature.toList)
    (hcall : '\n' ∉ call.toList) (hfirst : call.toList.head? = some 't' ∨
      call.toList.head? = some 'r') :
    ∀ line ∈ DataInterface.delegate result owner signature call, Inert line := by
  obtain ⟨c, rest, hc, hstart⟩ : ∃ c rest, call.toList = c :: rest ∧ (c = 't' ∨ c = 'r') := by
    cases hcalled : call.toList with
    | nil => simp [hcalled] at hfirst
    | cons c rest => exact ⟨c, rest, rfl, by simpa [hcalled] using hfirst⟩
  rw [hc] at hcall
  rcases hstart with rfl | rfl
  · simp [DataInterface.delegate, block, inert_iff, hresult, howner, hsignature, hc, hcall]
  · simp [DataInterface.delegate, block, inert_iff, hresult, howner, hsignature, hc, hcall]

theorem inert_delegates (h : IsWord t.name) : ∀ line ∈ DataInterface.delegates t, Inert line := by
  have hdata := isWord_class h "Data" (by decide +kernel)
  have howner : '\n' ∉ t.dataClass.toList := (marks_not_mem hdata).1
  have hrow : '\n' ∉ t.rowClass.toList :=
    (marks_not_mem (isWord_class h "Row" (by decide +kernel))).1
  simp only [DataInterface.delegates, List.forall_mem_append]
  refine ⟨⟨⟨⟨⟨⟨⟨⟨inert_resultConstructor hdata, ?_⟩, ?_⟩, ?_⟩, ?_⟩, ?_⟩, ?_⟩, ?_⟩,
    inert_cloneFrom hdata⟩
  · exact inert_delegate (by decide) howner (by decide) (by decide) (.inl (by decide))
  · exact inert_delegate (by decide) howner (by decide) (by decide) (.inl (by decide))
  · refine inert_delegate ?_ howner (by decide) ?_ (.inr ?_)
    · simp [howner]
    · simp [hrow]
    · simp
  · exact inert_delegate (by decide) howner (by decide) (by decide) (.inr (by decide))
  · exact inert_delegate (by decide) howner (by decide) (by decide) (.inl (by decide))
  · exact inert_delegate (by decide) howner (by decide) (by decide) (.inr (by decide))
  · exact inert_delegate (by decide) howner (by decide) (by decide) (.inl (by decide))

-- A sample interface declares members, and its other lines declare none.
theorem data_lines_around_declarations (hname : IsWord t.name)
    (h : ∀ f ∈ t.fields.keyFirst, IsWord f.name) :
    ∃ before after, DataInterface.lines t = before ++ Member.declarations t.fields ++ after ∧
      (∀ line ∈ before, Inert line) ∧ ∀ line ∈ after, Inert line := by
  have hdata := isWord_class hname "Data" (by decide +kernel)
  have hkey := h _ List.mem_cons_self
  obtain ⟨hline, hmark⟩ := marks_not_mem hname
  obtain ⟨hbase, hbase'⟩ : '\n' ∉ t.classBase.toList ∧ '>' ∉ t.classBase.toList :=
    marks_not_mem (Naming.isWord_classBase hname)
  refine ⟨DataInterface.remarks t ++ ["", "#pragma once", "", "#include \"table/_TableBase.h\"",
      "#include \"table/" ++ t.tableClass ++ ".h\"", "",
      "// User-friendly representation of a record in table " ++ t.name ++ ".",
      "struct " ++ t.dataClass, "\x7b"],
    Member.constructors t.dataClass ++ Member.keyAccess t.fields.key.name ++
      ["    " ++ t.rowClass ++ " to_row() const;",
        "    " ++ t.dataClass ++ "& from_row(const " ++ t.rowClass ++ "& row);"] ++
      Member.conversions t.dataClass ++ Member.copies t.dataClass ++
      Member.sorters t.dataClass t.fields ++ ["\x7d;"] ++ DataInterface.delegates t, ?_, ?_, ?_⟩
  · rw [DataInterface.lines, DataInterface.dataClass]
    simp only [List.cons_append, List.nil_append, List.append_assoc]
  · rw [List.forall_mem_append]
    refine ⟨inert_remarks hname, ?_⟩
    simp [Table.tableClass, Table.dataClass, inert_iff, hline, hmark, hbase, hbase']
  · simp only [List.forall_mem_append]
    refine ⟨⟨⟨⟨⟨⟨⟨inert_constructors hdata, inert_keyAccess hkey⟩, ?_⟩, inert_conversions hdata⟩,
      inert_copies hdata⟩, ?_⟩, ?_⟩, inert_delegates hname⟩
    · simp [Table.rowClass, Table.dataClass, inert_iff, hbase, hbase']
    · rw [Member.sorters, List.forall_mem_flatMap]
      exact fun f hf => inert_sorter hdata (h f (t.fields.keyFirst_perm.mem_iff.mpr hf))
    · simp [inert_iff]

theorem oneLine_data (hname : IsWord t.name) (h : ∀ f ∈ t.fields.keyFirst, IsWord f.name) :
    ∀ line ∈ DataInterface.lines t, '\n' ∉ line.toList := by
  obtain ⟨before, after, hlines, hbefore, hafter⟩ := data_lines_around_declarations hname h
  rw [hlines]
  simp only [List.forall_mem_append]
  exact ⟨⟨fun line hline => (hbefore line hline).oneLine,
    fun line hline => (declarations_marks h line hline).1⟩,
    fun line hline => (hafter line hline).oneLine⟩

-- The members of the sample class and no others, the key first and marked.
theorem filterMap_readMember_data (hname : IsWord t.name)
    (h : ∀ f ∈ t.fields.keyFirst, IsWord f.name) :
    (DataInterface.lines t).filterMap readMember? =
      (t.fields.key.name, t.fields.key.kind, true) ::
        t.fields.others.map fun f => (f.name, f.kind, false) := by
  obtain ⟨before, after, hlines, hbefore, hafter⟩ := data_lines_around_declarations hname h
  rw [hlines, List.filterMap_append, List.filterMap_append, (filterMap_of_inert hbefore).1,
    (filterMap_of_inert hafter).1, filterMap_declarations h]
  simp

end DataInterface

end TableForge.Code
