import TableForge.Artifact
import TableForge.Proofs.Code.Enumeration
import TableForge.Proofs.Code.SeedCall
import TableForge.Proofs.Table.Seed

namespace TableForge

open Code Code.StringLiteral

namespace Code

section Lines

variable {starts : List Char}

-- A line on which nothing is broken, and how it begins, when its beginning is known.
theorem line_of_append {front rest : String}
    (hfront : OneLine front.toList ∧ Text.Begins starts front) (hne : front ≠ "")
    (hrest : OneLine rest.toList) :
    OneLine (front ++ rest).toList ∧ Text.Begins starts (front ++ rest) := by
  rw [Text.begins_append hne, String.toList_append, oneLine_append]
  exact ⟨⟨hfront.1, hrest⟩, hfront.2⟩

theorem line_of_parts {front middle back : String}
    (hfront : OneLine front.toList ∧ Text.Begins starts front) (hne : front ≠ "")
    (hmiddle : OneLine middle.toList) (hback : OneLine back.toList) :
    OneLine (front ++ middle ++ back).toList ∧ Text.Begins starts (front ++ middle ++ back) := by
  rw [String.append_assoc]
  refine line_of_append hfront hne ?_
  rw [String.toList_append, oneLine_append]
  exact ⟨hmiddle, hback⟩

theorem forall_mem_block {P : String → Prop} {head body : List String} (hempty : P "")
    (hopen : P "\x7b") (hclose : P "\x7d") (hhead : ∀ line ∈ head, P line)
    (hbody : ∀ line ∈ body, P line) : ∀ line ∈ block head body, P line := by
  rw [block]
  simp only [List.forall_mem_append, List.forall_mem_cons]
  exact ⟨⟨⟨⟨hempty, hhead⟩, hopen, by simp⟩, hbody⟩, hclose, by simp⟩

end Lines

namespace TableImplementation

-- A line of the body that inserts the seed rows.
inductive SeedStep where
  | begin
  | execute (statement : List Char) (slots : List SlotText)
  | commit
  deriving DecidableEq, Repr

def readStep? (line : String) : Option SeedStep :=
  match readExecution? line with
  | some (statement, slots) => some (.execute statement slots)
  | none =>
    if line = "    m_db->Begin();" then some .begin
    else if line = "    m_db->Commit();" then some .commit
    else none

variable {t : Table}

theorem line_of_index {line : String} (h : line ∈ indexQueries t) :
    OneLine line.toList ∧ Text.Begins [' '] line := by
  rw [indexQueries, List.mem_append, List.mem_append] at h
  rcases h with (h | h) | h
  · obtain rfl := List.mem_singleton.mp h
    decide
  · have hliteral (i : GuardedIndex) (back : String) (hback : OneLine back.toList) :
        OneLine ("        " ++ render i.statement ++ back).toList ∧
          Text.Begins [' '] ("        " ++ render i.statement ++ back) :=
      line_of_parts (by decide) (by decide) (oneLine_render _) hback
    rcases mem_commaSeparated h with hmem | ⟨before, hmem, rfl⟩
    · obtain ⟨i, -, rfl⟩ := List.mem_map.mp hmem
      have hline := hliteral i "" (by decide)
      rwa [String.append_empty] at hline
    · obtain ⟨i, -, rfl⟩ := List.mem_map.mp hmem
      exact hliteral i "," (by decide)
  · obtain rfl := List.mem_singleton.mp h
    decide

-- The lines between the braces of the constructor.
def constructorBody (t : Table) : List String :=
  ["    m_table_name = " ++ render t.name ++ ";",
    "", queryMember "m_create_query" t.create, "", queryMember "m_drop_query" t.drop, ""] ++
  indexQueries t ++
  ["", queryMember "m_insert_query" t.insert, "", queryMember "m_update_query" t.update,
    "", queryMember "m_delete_query" t.delete, "", queryMember "m_select_query" t.select]

theorem tableConstructor_eq (t : Table) :
    tableConstructor t = "" :: (t.tableClass ++ "::" ++ t.tableClass ++ "()") :: "\x7b" ::
      (constructorBody t ++ ["\x7d"]) := rfl

theorem line_of_constructorBody : ∀ line ∈ constructorBody t,
    OneLine line.toList ∧ Text.Begins [' '] line := by
  have hquery {member : String} (q : Query) (hmember : OneLine member.toList) :
      OneLine (queryMember member q).toList ∧ Text.Begins [' '] (queryMember member q) := by
    have hline : "    " ++ member ++ " = " ++ render q.text ++ ";" =
        "    " ++ (member ++ " = " ++ render q.text ++ ";") := by
      simp only [String.append_assoc]
    rw [queryMember, hline]
    refine line_of_append (by decide) (by decide) ?_
    simp only [String.toList_append, oneLine_append]
    exact ⟨⟨⟨hmember, by decide⟩, oneLine_render _⟩, by decide⟩
  have hname : OneLine ("    m_table_name = " ++ render t.name ++ ";").toList ∧
      Text.Begins [' '] ("    m_table_name = " ++ render t.name ++ ";") :=
    line_of_parts (by decide) (by decide) (oneLine_render _) (by decide)
  have hempty : OneLine "".toList ∧ Text.Begins [' '] "" := by decide
  simp only [constructorBody, List.forall_mem_append, List.forall_mem_cons]
  refine ⟨⟨⟨hname, hempty, hquery t.create (by decide), hempty, hquery t.drop (by decide), hempty,
    by simp⟩, fun _ => line_of_index⟩, ?_⟩
  exact ⟨hempty, hquery t.insert (by decide), hempty, hquery t.update (by decide), hempty,
    hquery t.delete (by decide), hempty, hquery t.select (by decide), by simp⟩

-- The lines that the generated code has for the seed rows.
def seedBody (t : Table) : List String :=
  "    m_db->Begin();" :: (t.rows.map fun row => seedCall (t.seedOf row)) ++ ["    m_db->Commit();"]

theorem ensureData_of_nil (h : t.rows = []) : ensureData t = [] := by
  simp [ensureData, Table.seeds, h]

theorem ensureData_of_ne_nil (h : t.rows ≠ []) :
    ensureData t = "" :: ("void " ++ t.tableClass ++ "::ensure_data()") :: "\x7b" ::
      (seedBody t ++ ["\x7d"]) := by
  have hseeds : t.seeds.isEmpty = false := by
    rw [Table.seeds, List.isEmpty_map]
    exact List.isEmpty_eq_false_iff.mpr h
  rw [ensureData, hseeds, if_neg Bool.false_ne_true, block, Table.seeds, List.map_map]
  rfl

theorem readStep_begin : readStep? "    m_db->Begin();" = some .begin := by
  have hcall : readExecution? "    m_db->Begin();" = none := by decide
  rw [readStep?, hcall, if_pos rfl]

theorem readStep_commit : readStep? "    m_db->Commit();" = some .commit := by
  have hcall : readExecution? "    m_db->Commit();" = none := by decide
  rw [readStep?, hcall, if_neg (by decide), if_pos rfl]

theorem readStep_seedCall (s : SeedInsert) :
    readStep? (seedCall s) = some (.execute (foldLines none s.text.toList)
      ((s.literals.filterMap SlotText.ofLiteral?).map (SlotText.map (foldLines none)))) := by
  rw [readStep?, readExecution_seedCall]

theorem oneLine_of_argument {l : Literal} {argument : String} (h : l.argument? = some argument) :
    OneLine argument.toList := by
  cases l with
  | plain token => cases h
  | localized s =>
    obtain rfl := Option.some.inj h
    rw [String.toList_append, String.toList_append, oneLine_append, oneLine_append]
    exact ⟨⟨by decide, oneLine_render s⟩, by decide⟩
  | wide s =>
    obtain rfl := Option.some.inj h
    rw [String.toList_append, oneLine_append]
    exact ⟨by decide, oneLine_render _⟩

theorem oneLine_seedExpression (s : SeedInsert) : OneLine (seedExpression s).toList := by
  have harguments : OneLine (Text.join ", " s.arguments).toList := by
    rw [Text.toList_join]
    refine SeedInsert.oneLine_intercalate fun a ha => ?_
    obtain ⟨argument, hmem, rfl⟩ := List.mem_map.mp ha
    obtain ⟨l, -, hl⟩ := List.mem_filterMap.mp hmem
    exact oneLine_of_argument hl
  rw [seedExpression]
  split
  · simp only [String.toList_append, oneLine_append]
    exact ⟨⟨⟨⟨by decide, oneLine_render _⟩, by decide⟩, harguments⟩, by decide⟩
  · exact oneLine_render _

theorem line_of_seedCall (s : SeedInsert) :
    OneLine (seedCall s).toList ∧ Text.Begins [' '] (seedCall s) := by
  have hline : seedCall s = "    m_db->ExecuteUpdate(" ++ (seedExpression s ++ ");") := by
    rw [← String.append_assoc]
    rfl
  rw [hline]
  constructor
  · rw [String.toList_append, String.toList_append, oneLine_append, oneLine_append]
    exact ⟨by decide, oneLine_seedExpression s, by decide⟩
  · rw [Text.begins_append (by decide)]
    decide

theorem line_of_seedBody {line : String} (h : line ∈ seedBody t) :
    OneLine line.toList ∧ Text.Begins [' '] line := by
  rw [seedBody, List.mem_append, List.mem_cons, List.mem_map, List.mem_singleton] at h
  rcases h with (rfl | ⟨row, -, rfl⟩) | rfl
  · decide
  · exact line_of_seedCall _
  · decide

theorem line_of_ensureData {line : String} (h : line ∈ ensureData t) :
    line = "void " ++ t.tableClass ++ "::ensure_data()" ∨
      OneLine line.toList ∧ Text.Begins [' ', '\x7b', '\x7d'] line := by
  by_cases hrows : t.rows = []
  · rw [ensureData_of_nil hrows] at h
    cases h
  rw [ensureData_of_ne_nil hrows] at h
  simp only [List.mem_cons, List.mem_append, List.not_mem_nil, or_false] at h
  rcases h with rfl | rfl | rfl | h | rfl
  · exact .inr (by decide)
  · exact .inl rfl
  · exact .inr (by decide)
  · obtain ⟨hline, hbegins⟩ := line_of_seedBody h
    exact .inr ⟨hline, fun c hc => by simpa using .inl (List.mem_singleton.mp (hbegins c hc))⟩
  · exact .inr (by decide)

end TableImplementation

end Code

namespace Artifact

-- What stands behind a line of a module, when this line and those behind it are not broken and no
-- other one behind it is the same.
theorem behindLast?_ofModule {name brief description line mark : String} {marked : Bool} {h : Header}
    {front back : List String} (hlines : ∀ line ∈ mark :: back, OneLine line.toList)
    (hmark : mark ∉ back) :
    Text.behindLast? mark (Text.linesOf
      (ofModule name brief description marked h (front ++ line :: mark :: back)).contents) =
        some back := by
  have hfront : (h.render name brief ++ Text.unlines (front ++ [line])).toList =
      ((h.render name brief).toList ++ ((Text.unlines front).toList ++ line.toList)) ++ ['\n'] := by
    rw [String.toList_append, Text.toList_unlines_concat]
    simp only [List.append_assoc]
  have hfeed : ∀ line ∈ mark :: back, '\n' ∉ line.toList :=
    fun line hline hmem => (hlines line hline '\n' hmem).1 rfl
  have hread : Text.linesOf
      (ofModule name brief description marked h (front ++ line :: mark :: back)).contents =
        Text.linesOf (h.render name brief ++ Text.unlines (front ++ [line])) ++ mark :: back := by
    rw [ofModule, List.append_cons, Text.unlines_append, ← String.append_assoc]
    exact Text.linesOf_append_unlines hfront hfeed
  rw [hread]
  exact Text.behindLast?_append _ hmark

end Artifact

namespace Table

variable {t : Table}

section Names

variable (hname : SeedInsert.IsPlainName t.name)

include hname

theorem isNameChar_of_mem_classBase {c : Char} (hc : c ∈ t.classBase.toList) :
    Script.Token.isNameChar c = true := by
  have hoverrides : ∀ e ∈ Naming.overrides, e.2.toList.all Script.Token.isNameChar = true := by
    decide +kernel
  exact Naming.forall_mem_classBase (P := fun c => Script.Token.isNameChar c = true)
    (fun _ => hname.isNameChar) (by decide) (fun e he => List.all_eq_true.mp (hoverrides e he)) c hc

theorem not_mem_classBase {c : Char} (hc : Script.Token.isNameChar c = false) :
    c ∉ t.classBase.toList := by
  intro hmem
  rw [isNameChar_of_mem_classBase hname hmem] at hc
  cases hc

theorem oneLine_classBase : OneLine t.classBase.toList := by
  intro c hc
  constructor
  · rintro rfl
    exact not_mem_classBase hname (by decide) hc
  · rintro rfl
    exact not_mem_classBase hname (by decide) hc

end Names

-- The members that an interface declares for the class of the table.
def members? (t : Table) (lines : List String) : Option (List String) := do
  Text.blockOf? "\x7d;" (← Text.behindLast? ("struct " ++ t.tableClass ++ " : public TableBase") lines)

-- The body that an implementation has behind its constructor for the seed rows.
def seedBody? (t : Table) (lines : List String) : Option (List String) := do
  let behind ← Text.behindLast? (t.tableClass ++ "::" ++ t.tableClass ++ "()") lines
  Text.blockOf? "\x7d" (behind.dropWhile (· ≠ "void " ++ t.tableClass ++ "::ensure_data()")).tail

-- The members of the class of the table, in the order of their declarations.
def members (t : Table) : List String :=
  ["    using Row = " ++ t.rowClass ++ ";", "    using Col = typename Row::Col;", "",
    "    " ++ t.tableClass ++ "();", "    ~" ++ t.tableClass ++ "() \x7b\x7d"] ++
  TableInterface.seedDeclaration t

theorem exists_front_interface (t : Table) :
    ∃ front, TableInterface.lines t =
      front ++ ("// Interface to database table " ++ t.name) ::
        ("struct " ++ t.tableClass ++ " : public TableBase") :: "\x7b" ::
          (members t ++ "\x7d;" :: TableInterface.inlineMembers t) := by
  have hclass : TableInterface.tableClass t ++ TableInterface.inlineMembers t =
      "" :: ("// Interface to database table " ++ t.name) ::
        ("struct " ++ t.tableClass ++ " : public TableBase") :: "\x7b" ::
          (members t ++ "\x7d;" :: TableInterface.inlineMembers t) := by
    simp [TableInterface.tableClass, members]
  rw [TableInterface.lines, List.append_assoc, hclass, List.append_cons]
  exact ⟨_, rfl⟩

theorem exists_front_implementation (t : Table) :
    ∃ front, TableImplementation.lines t =
      front ++ "" :: (t.tableClass ++ "::" ++ t.tableClass ++ "()") :: "\x7b" ::
        (TableImplementation.constructorBody t ++ "\x7d" :: TableImplementation.ensureData t) := by
  have hback : TableImplementation.tableConstructor t ++ TableImplementation.ensureData t =
      "" :: (t.tableClass ++ "::" ++ t.tableClass ++ "()") :: "\x7b" ::
        (TableImplementation.constructorBody t ++ "\x7d" :: TableImplementation.ensureData t) := by
    rw [TableImplementation.tableConstructor_eq]
    simp
  rw [TableImplementation.lines, List.append_assoc, hback]
  exact ⟨_, rfl⟩

section Lines

variable (hname : SeedInsert.IsPlainName t.name)

include hname

theorem oneLine_class {suffix : String} (h : OneLine suffix.toList) :
    OneLine (t.classBase ++ suffix).toList := by
  rw [String.toList_append, oneLine_append]
  exact ⟨oneLine_classBase hname, h⟩

theorem line_of_members {line : String} (h : line ∈ members t) :
    OneLine line.toList ∧ Text.Begins [' '] line := by
  have hrow : OneLine t.rowClass.toList := oneLine_class hname (by decide)
  have htable : OneLine t.tableClass.toList := oneLine_class hname (by decide)
  rw [members, List.mem_append] at h
  rcases h with h | h
  · simp only [List.mem_cons, List.not_mem_nil, or_false] at h
    rcases h with rfl | rfl | rfl | rfl | rfl
    · exact line_of_parts (by decide) (by decide) hrow (by decide)
    · decide
    · decide
    · exact line_of_parts (by decide) (by decide) htable (by decide)
    · exact line_of_parts (by decide) (by decide) htable (by decide)
  · rw [TableInterface.seedDeclaration] at h
    split at h
    · cases h
    · simp only [List.mem_cons, List.not_mem_nil, or_false] at h
      rcases h with rfl | rfl <;> decide

theorem line_of_inlineMembers : ∀ line ∈ TableInterface.inlineMembers t,
    OneLine line.toList ∧ Text.Begins [' ', '\x7b', '\x7d', 'i'] line := by
  have hrow : OneLine t.rowClass.toList := oneLine_class hname (by decide)
  have hempty : OneLine "".toList ∧ Text.Begins [' ', '\x7b', '\x7d', 'i'] "" := by decide
  have hopen : OneLine "\x7b".toList ∧ Text.Begins [' ', '\x7b', '\x7d', 'i'] "\x7b" := by decide
  have hclose : OneLine "\x7d".toList ∧ Text.Begins [' ', '\x7b', '\x7d', 'i'] "\x7d" := by decide
  have hinline {rest : String} (hrest : OneLine rest.toList) :
      OneLine ("inline " ++ rest).toList ∧
        Text.Begins [' ', '\x7b', '\x7d', 'i'] ("inline " ++ rest) :=
    line_of_append (by decide) (by decide) hrest
  simp only [TableInterface.inlineMembers, List.forall_mem_append]
  refine ⟨⟨forall_mem_block hempty hopen hclose ?_ (by decide),
    forall_mem_block hempty hopen hclose ?_ (by decide)⟩,
    forall_mem_block hempty hopen hclose ?_ (by decide)⟩
  · rw [List.forall_mem_singleton]
    simp only [String.append_assoc]
    refine hinline ?_
    simp only [String.toList_append, oneLine_append]
    exact ⟨hrow, by decide, hrow, by decide⟩
  · rw [List.forall_mem_singleton]
    exact line_of_parts (by decide) (by decide) hrow (by decide)
  · rw [List.forall_mem_singleton]
    simp only [String.append_assoc]
    refine hinline ?_
    simp only [String.toList_append, oneLine_append]
    exact ⟨hrow, by decide, hrow, by decide, hrow, by decide⟩

theorem members_interface (h : Header) :
    members? t (Text.linesOf (Artifact.tableInterface h t).contents) = some (members t) := by
  let starts : List Char := [' ', '\x7b', '\x7d', 'i']
  obtain ⟨front, hlines⟩ := exists_front_interface t
  have hbehind : ∀ line ∈ "\x7b" :: (members t ++ "\x7d;" :: TableInterface.inlineMembers t),
      OneLine line.toList ∧ Text.Begins starts line := by
    simp only [List.forall_mem_cons, List.forall_mem_append]
    refine ⟨by decide, fun line hline => ?_, by decide, line_of_inlineMembers hname⟩
    obtain ⟨hone, hbegins⟩ := line_of_members hname hline
    exact ⟨hone, fun c hc => by simp [starts, List.mem_singleton.mp (hbegins c hc)]⟩
  have hmark : OneLine ("struct " ++ t.tableClass ++ " : public TableBase").toList := by
    simp only [String.toList_append, oneLine_append]
    exact ⟨⟨by decide, oneLine_class hname (by decide)⟩, by decide⟩
  have hother : "struct " ++ t.tableClass ++ " : public TableBase" ∉
      "\x7b" :: (members t ++ "\x7d;" :: TableInterface.inlineMembers t) := by
    refine Text.not_mem_of_begins (fun line hline => (hbehind line hline).2) ?_
    rw [String.append_assoc, Text.begins_append (by decide)]
    decide
  have hclose : "\x7d;" ∉ members t :=
    Text.not_mem_of_begins (fun line hline => (line_of_members hname hline).2) (by decide)
  have hall : ∀ line ∈ ("struct " ++ t.tableClass ++ " : public TableBase") :: "\x7b" ::
      (members t ++ "\x7d;" :: TableInterface.inlineMembers t), OneLine line.toList :=
    List.forall_mem_cons.mpr ⟨hmark, fun line hline => (hbehind line hline).1⟩
  rw [members?, Artifact.tableInterface, hlines, Artifact.behindLast?_ofModule hall hother]
  exact Text.blockOf?_append hclose _

theorem not_begins_tableClass {starts : List Char}
    (h : starts.all fun c => !Script.Token.isNameChar c) : ¬Text.Begins starts t.tableClass := by
  intro hbegins
  have hletters : t.tableClass.toList = t.classBase.toList ++ "Table".toList :=
    String.toList_append
  cases hchars : t.tableClass.toList with
  | nil => simp [hletters] at hchars
  | cons c rest =>
    have hmem : c ∈ t.classBase.toList ++ "Table".toList := by
      rw [← hletters, hchars]
      exact List.mem_cons_self
    have hc : Script.Token.isNameChar c = false := by
      simpa using List.all_eq_true.mp h c (hbegins c (by rw [hchars]; rfl))
    rcases List.mem_append.mp hmem with hmem | hmem
    · exact not_mem_classBase hname hc hmem
    · have hword : "Table".toList.all Script.Token.isNameChar = true := by decide
      rw [List.all_eq_true.mp hword c hmem] at hc
      cases hc

-- Behind the constructor of the table class stands the function for the seed rows, if there is one.
theorem exists_behind_constructor (h : Header) :
    ∃ top, Text.behindLast? (t.tableClass ++ "::" ++ t.tableClass ++ "()")
        (Text.linesOf (Artifact.tableImplementation h t).contents) =
          some (top ++ TableImplementation.ensureData t) ∧
      ∀ line ∈ top, Text.Begins [' ', '\x7b', '\x7d'] line := by
  obtain ⟨front, hlines⟩ := exists_front_implementation t
  have htop : ∀ line ∈ "\x7b" :: (TableImplementation.constructorBody t ++ ["\x7d"]),
      OneLine line.toList ∧ Text.Begins [' ', '\x7b', '\x7d'] line := by
    simp only [List.forall_mem_cons, List.forall_mem_append]
    refine ⟨by decide, fun line hline => ?_, by decide, by simp⟩
    obtain ⟨hone, hbegins⟩ := TableImplementation.line_of_constructorBody line hline
    exact ⟨hone, fun c hc => by simp [List.mem_singleton.mp (hbegins c hc)]⟩
  have hclass : OneLine t.tableClass.toList := oneLine_class hname (by decide)
  have hnot : ¬Text.Begins [' ', '\x7b', '\x7d'] (t.tableClass ++ "::" ++ t.tableClass ++ "()") := by
    have hbegins : ¬Text.Begins [' ', '\x7b', '\x7d'] t.tableClass :=
      not_begins_tableClass hname (by decide)
    have hne : t.tableClass ≠ "" := by
      intro hempty
      exact hbegins (by rw [hempty]; decide)
    rwa [String.append_assoc, String.append_assoc, Text.begins_append hne]
  have hblank : ' ' ∉ (t.tableClass ++ "::" ++ t.tableClass ++ "()").toList := by
    have hbase : ' ' ∉ t.classBase.toList := not_mem_classBase hname (by decide)
    simp [Table.tableClass, hbase]
  refine ⟨"\x7b" :: (TableImplementation.constructorBody t ++ ["\x7d"]), ?_,
    fun line hline => (htop line hline).2⟩
  have hback : "\x7b" :: (TableImplementation.constructorBody t ++ "\x7d" ::
      TableImplementation.ensureData t) =
        "\x7b" :: (TableImplementation.constructorBody t ++ ["\x7d"]) ++
          TableImplementation.ensureData t := by
    simp
  rw [Artifact.tableImplementation, hlines, hback]
  refine Artifact.behindLast?_ofModule (List.forall_mem_cons.mpr ⟨?_, ?_⟩) ?_
  · simp only [String.toList_append, oneLine_append]
    exact ⟨⟨⟨hclass, by decide⟩, hclass⟩, by decide⟩
  · rw [List.forall_mem_append]
    refine ⟨fun line hline => (htop line hline).1, fun line hline => ?_⟩
    rcases TableImplementation.line_of_ensureData hline with rfl | ⟨hone, -⟩
    · simp only [String.toList_append, oneLine_append]
      exact ⟨⟨by decide, hclass⟩, by decide⟩
    · exact hone
  · rw [List.mem_append, not_or]
    refine ⟨Text.not_mem_of_begins (fun line hline => (htop line hline).2) hnot, fun hmem => ?_⟩
    rcases TableImplementation.line_of_ensureData hmem with heq | ⟨-, hbegins⟩
    · refine hblank ?_
      rw [heq]
      simp
    · exact hnot hbegins

theorem seedBody_implementation (h : Header) :
    seedBody? t (Text.linesOf (Artifact.tableImplementation h t).contents) =
      if t.rows = [] then none else some (TableImplementation.seedBody t) := by
  obtain ⟨top, hbehind, htop⟩ := exists_behind_constructor hname h
  have hother : ∀ line ∈ top,
      decide (line ≠ "void " ++ t.tableClass ++ "::ensure_data()") = true := by
    intro line hline
    refine decide_eq_true ?_
    rintro rfl
    have hbegins := htop _ hline
    rw [String.append_assoc, Text.begins_append (by decide)] at hbegins
    exact absurd hbegins (by decide)
  rw [seedBody?, hbehind, Option.bind_eq_bind, Option.bind_some,
    List.dropWhile_append_of_pos hother]
  by_cases hrows : t.rows = []
  · rw [if_pos hrows, TableImplementation.ensureData_of_nil hrows]
    rfl
  · have hempty : "" ≠ "void " ++ t.tableClass ++ "::ensure_data()" := by
      intro hempty
      have hfirst := congrArg (fun s : String => s.toList.head?) hempty
      simp at hfirst
    have hclose : "\x7d" ∉ TableImplementation.seedBody t :=
      Text.not_mem_of_begins
        (fun line hline => (TableImplementation.line_of_seedBody hline).2) (by decide)
    rw [if_neg hrows, TableImplementation.ensureData_of_ne_nil hrows,
      List.dropWhile_cons, if_pos (decide_eq_true hempty), List.dropWhile_cons, if_neg (by simp),
      List.tail_cons]
    exact Text.blockOf?_append hclose []

end Lines

theorem mem_members_iff (hname : SeedInsert.IsPlainName t.name) :
    "    void ensure_data() override;" ∈ members t ↔ t.rows ≠ [] := by
  have hbase : ' ' ∉ t.classBase.toList := not_mem_classBase hname (by decide)
  have hconstructor : "    void ensure_data() override;" ≠ "    " ++ t.tableClass ++ "();" := by
    intro heq
    have hblank := congrArg (fun s : String => decide (' ' ∈ s.toList.drop 4)) heq
    simp [Table.tableClass, hbase] at hblank
  have hfifth {line : String} (hline : line.toList[4]? ≠ some 'v') :
      "    void ensure_data() override;" ≠ line := by
    rintro rfl
    exact hline (by decide)
  have hothers : "    void ensure_data() override;" ∉
      ["    using Row = " ++ t.rowClass ++ ";", "    using Col = typename Row::Col;", "",
        "    " ++ t.tableClass ++ "();", "    ~" ++ t.tableClass ++ "() \x7b\x7d"] := by
    simp only [List.mem_cons, List.not_mem_nil, or_false, not_or]
    exact ⟨hfifth (by simp), hfifth (by decide), by decide, hconstructor, hfifth (by simp)⟩
  rw [members, List.mem_append, or_iff_right hothers, TableInterface.seedDeclaration]
  by_cases hrows : t.rows = [] <;> simp [hrows]

open TableImplementation (SeedStep readStep?) in
-- The interface declares the function that inserts the seed rows exactly when the implementation
-- defines it, which is when there are such rows. Its body, read line by line, begins a transaction,
-- executes the insertion of each row in their order, and commits, whatever texts the rows have.
theorem seed_code_reads_back (h : Header) (t : Table) (hname : SeedInsert.IsPlainName t.name) :
    (∃ declared, members? t (Text.linesOf (Artifact.tableInterface h t).contents) = some declared ∧
      ("    void ensure_data() override;" ∈ declared ↔ t.rows ≠ [])) ∧
    ((∃ body, seedBody? t (Text.linesOf (Artifact.tableImplementation h t).contents) = some body) ↔
      t.rows ≠ []) ∧
    ∀ body, seedBody? t (Text.linesOf (Artifact.tableImplementation h t).contents) = some body →
      (∀ line ∈ body, OneLine line.toList) ∧
      body.map readStep? =
        ([SeedStep.begin] ++ t.rows.map (fun row => SeedStep.execute
          (foldLines none (t.seedOf row).text.toList)
          (((t.seedOf row).literals.filterMap SlotText.ofLiteral?).map
            (SlotText.map (foldLines none)))) ++ [SeedStep.commit]).map some := by
  refine ⟨⟨members t, members_interface hname h, mem_members_iff hname⟩, ?_, ?_⟩
  · rw [seedBody_implementation hname h]
    by_cases hrows : t.rows = []
    · simp [hrows]
    · simp [hrows]
  · intro body hbody
    rw [seedBody_implementation hname h] at hbody
    split at hbody
    · cases hbody
    obtain rfl := Option.some.inj hbody
    refine ⟨fun line hline => (TableImplementation.line_of_seedBody hline).1, ?_⟩
    rw [TableImplementation.seedBody]
    simp only [List.map_append, List.map_cons, List.map_nil, List.map_map, List.cons_append,
      List.nil_append, TableImplementation.readStep_begin, TableImplementation.readStep_commit,
      Function.comp_def, TableImplementation.readStep_seedCall]

-- A text that looks like the end of the body and the beginning of another one.
theorem seed_code_reads_back_of_code_in_text :
    let row : Row := [("ID", .int 1),
      ("NAME", .text "\");\n\x7d\nvoid T_Table::ensure_data()\n\x7b\n"), ("SIGN", .text "_tr_\\\"")]
    let t : Table := ⟨"T", "", ⟨[], ⟨0, "ID", .integer, false⟩, []⟩, [], [row]⟩
    SeedInsert.IsPlainName t.name ∧ ∃ body,
      seedBody? t (Text.linesOf (Artifact.tableImplementation ⟨""⟩ t).contents) = some body ∧
        body.length = 3 := by
  intro row t
  have hname : SeedInsert.IsPlainName t.name := ⟨by decide, by decide⟩
  obtain ⟨-, hdefined, hsteps⟩ := seed_code_reads_back ⟨""⟩ t hname
  obtain ⟨body, hbody⟩ := hdefined.mpr (List.cons_ne_nil row [])
  refine ⟨hname, body, hbody, ?_⟩
  have hlength := congrArg List.length (hsteps body hbody).2
  simpa [t] using hlength

end Table

end TableForge
