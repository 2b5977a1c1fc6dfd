import TableForge.Column.Type
import TableForge.Proofs.Text.Lines
import TableForge.Proofs.Text.Word

namespace TableForge.Code

open Text

-- The kind of values that a type of the generated code is for.
def kindOf? (type : String) : Option ValueKind :=
  [ValueKind.text, .real, .integer, .date].find? (·.memberType = type)

-- The declaration of a member: its name, the kind of its values, and whether it is marked as the
-- key.
def readMember? (line : String) : Option (String × ValueKind × Bool) := do
  let (declaration, marked) ← ((between? "    " "; // primary key" line).map (·, true)).or
    ((between? "    " ";" line).map (·, false))
  let (type, name) ← lastWord? isWordChar " " declaration
  return (name, ← kindOf? type, marked)

-- The declaration of the conditions on a column: its name and the kind of its values.
def readCondition? (line : String) : Option (String × ValueKind) := do
  let declaration ← between? "    struct " ">" line
  let (name, type) ← lastWord? Char.isAlphanum " : public TableOpV<" declaration
  return (name, ← kindOf? type)

theorem kindOf_memberType (kind : ValueKind) : kindOf? kind.memberType = some kind := by
  cases kind <;> decide

theorem memberType_of_kindOf {type : String} {kind : ValueKind} (h : kindOf? type = some kind) :
    kind.memberType = type := by
  simpa using List.find?_some h

section Reading

variable {name : String}

theorem lastWord_member (h : IsWord name) (kind : ValueKind) :
    lastWord? isWordChar " " (kind.memberType ++ " " ++ name) = some (kind.memberType, name) :=
  lastWord?_append (List.all_eq_true.mpr h) (c := ' ') (by decide) (by decide +kernel)

theorem readMember_key (h : IsWord name) (kind : ValueKind) :
    readMember? ("    " ++ kind.memberType ++ " " ++ name ++ "; // primary key") =
      some (name, kind, true) := by
  have hline : between? "    " "; // primary key"
      ("    " ++ kind.memberType ++ " " ++ name ++ "; // primary key") =
        some (kind.memberType ++ " " ++ name) := by
    rw [between?_eq_some_iff]
    simp only [String.append_assoc]
  rw [readMember?, hline]
  simp only [Option.map_some, Option.some_or, Option.bind_eq_bind, Option.bind_some,
    lastWord_member h, kindOf_memberType]
  rfl

theorem readMember_other (h : IsWord name) (kind : ValueKind) :
    readMember? ("    " ++ kind.memberType ++ " " ++ name ++ ";") = some (name, kind, false) := by
  have hkey : between? "    " "; // primary key" ("    " ++ kind.memberType ++ " " ++ name ++ ";") =
      none :=
    between?_eq_none_of_tail (c := ';') (d := 'y') (by decide) (by decide) (by decide)
  have hline : between? "    " ";" ("    " ++ kind.memberType ++ " " ++ name ++ ";") =
      some (kind.memberType ++ " " ++ name) := by
    rw [between?_eq_some_iff]
    simp only [String.append_assoc]
  rw [readMember?, hkey, hline]
  simp only [Option.map_some, Option.map_none, Option.none_or, Option.bind_eq_bind,
    Option.bind_some, lastWord_member h, kindOf_memberType]
  rfl

theorem readCondition_struct (name : String) (kind : ValueKind) :
    readCondition? ("    struct " ++ name ++ " : public TableOpV<" ++ kind.memberType ++ ">") =
      some (name, kind) := by
  have hline : between? "    struct " ">"
      ("    struct " ++ name ++ " : public TableOpV<" ++ kind.memberType ++ ">") =
        some (name ++ " : public TableOpV<" ++ kind.memberType) := by
    rw [between?_eq_some_iff]
    simp only [String.append_assoc]
  have htype : lastWord? Char.isAlphanum " : public TableOpV<"
      (name ++ " : public TableOpV<" ++ kind.memberType) = some (name, kind.memberType) :=
    lastWord?_append (by cases kind <;> decide) (c := '<') (by decide) (by decide)
  rw [readCondition?, hline]
  simp only [Option.bind_eq_bind, Option.bind_some, htype, kindOf_memberType]
  rfl

-- Only such a line is read as the declaration of a member.
theorem of_readMember {line : String} {kind : ValueKind} {marked : Bool}
    (h : readMember? line = some (name, kind, marked)) :
    IsWord name ∧ line = "    " ++ (kind.memberType ++ " " ++ name) ++
      if marked then "; // primary key" else ";" := by
  obtain ⟨⟨declaration, found⟩, hdeclaration, h⟩ := Option.bind_eq_some_iff.mp h
  obtain ⟨⟨type, word⟩, hword, h⟩ := Option.bind_eq_some_iff.mp h
  obtain ⟨of, hkind, h⟩ := Option.bind_eq_some_iff.mp h
  obtain ⟨rfl, rfl, rfl⟩ : word = name ∧ of = kind ∧ found = marked := by simpa using h
  obtain ⟨rfl, hname⟩ := of_lastWord? hword
  refine ⟨hname, ?_⟩
  rw [memberType_of_kindOf hkind]
  simp only [Option.or_eq_some_iff, Option.map_eq_some_iff, between?_eq_some_iff, Prod.mk.injEq]
    at hdeclaration
  rcases hdeclaration with ⟨_, rfl, rfl, rfl⟩ | ⟨-, _, rfl, rfl, rfl⟩
  · rfl
  · rfl

end Reading

-- A line that declares neither a member nor conditions: it has what these cannot have, or does
-- not begin like them.
structure Inert (line : String) : Prop where
  oneLine : '\n' ∉ line.toList
  member : '(' ∈ line.toList ∨
    ∀ c ∈ ['w', 'd', 'i'], line.toList.take 5 ≠ [' ', ' ', ' ', ' ', c]
  condition : '>' ∉ line.toList ∨ line.toList.take 5 ≠ "    s".toList

section Inert

variable {line : String}

theorem readMember_eq_none (h : '(' ∈ line.toList ∨
    ∀ c ∈ ['w', 'd', 'i'], line.toList.take 5 ≠ [' ', ' ', ' ', ' ', c]) :
    readMember? line = none := by
  rw [Option.eq_none_iff_forall_ne_some]
  rintro ⟨name, kind, marked⟩ hread
  obtain ⟨hname, rfl⟩ := of_readMember hread
  rcases h with h | h
  · have hnot : '(' ∉ name.toList := not_mem_of_isWord hname (by decide +kernel)
    cases kind <;> cases marked <;> simp [ValueKind.memberType, hnot] at h
  · cases kind <;> simp [ValueKind.memberType] at h

theorem readCondition_eq_none (h : '>' ∉ line.toList ∨ line.toList.take 5 ≠ "    s".toList) :
    readCondition? line = none := by
  rw [Option.eq_none_iff_forall_ne_some]
  rintro ⟨name, kind⟩ hread
  obtain ⟨declaration, hdeclaration, -⟩ := Option.bind_eq_some_iff.mp hread
  rw [between?_eq_some_iff] at hdeclaration
  subst hdeclaration
  rcases h with h | h
  · exact h (by simp)
  · exact h (by simp)

theorem inert_iff : Inert line ↔ '\n' ∉ line.toList ∧ ('(' ∈ line.toList ∨
    ∀ c ∈ ['w', 'd', 'i'], line.toList.take 5 ≠ [' ', ' ', ' ', ' ', c]) ∧
      ('>' ∉ line.toList ∨ line.toList.take 5 ≠ "    s".toList) :=
  ⟨fun h => ⟨h.oneLine, h.member, h.condition⟩, fun ⟨h, h', h''⟩ => ⟨h, h', h''⟩⟩

theorem filterMap_of_inert {lines : List String} (h : ∀ line ∈ lines, Inert line) :
    lines.filterMap readMember? = [] ∧ lines.filterMap readCondition? = [] :=
  ⟨List.filterMap_eq_nil_iff.mpr fun line hline => readMember_eq_none (h line hline).member,
    List.filterMap_eq_nil_iff.mpr fun line hline => readCondition_eq_none (h line hline).condition⟩

-- What the readers look for is not in a word.
theorem marks_not_mem {name : String} (h : IsWord name) :
    '\n' ∉ name.toList ∧ '>' ∉ name.toList :=
  ⟨not_mem_of_isWord h (by decide +kernel), not_mem_of_isWord h (by decide +kernel)⟩

end Inert

end TableForge.Code
