import TableForge.Code.DataImplementation
import TableForge.Proofs.Code.Projection
import Mathlib.Data.List.Nodup
import Mathlib.Logic.Function.Basic

-- Bodies that copy or compare the members of two objects, read back from their lines.
namespace TableForge.Code

open Text (between? between?_eq_some_iff lastWord? lastWord?_append of_lastWord?)
open TableImplementation (halves? halves?_eq_some_iff)

-- The names on the two sides of a sign. One name that stands on both sides is found as such,
-- whatever its characters are; otherwise the first sign parts the text.
def sides? (sign s : String) : Option (String × String) :=
  match halves? sign s with
  | some name => some (name, name)
  | none => (List.range s.length).findSome? fun n => do
    let after ← Text.dropHead? sign.toList (s.toList.drop n)
    return (String.ofList (s.toList.take n), String.ofList after)

theorem sides_twin (sign name : String) : sides? sign (name ++ sign ++ name) = some (name, name) := by
  rw [sides?, halves?_eq_some_iff.mpr rfl]

-- A line without the comment behind its code.
def codeOf (line : String) : String :=
  match lastWord? Char.isAlphanum " // " line with
  | some (code, _) => code
  | none => line

theorem codeOf_comment {code word : String} (h : word.toList.all Char.isAlphanum) :
    codeOf (code ++ " // " ++ word) = code := by
  rw [codeOf, lastWord?_append h (c := ' ') (by decide) (by decide)]

theorem codeOf_statement {line : String} (h : line.toList.getLast? = some ';') :
    codeOf line = line := by
  have hnone : lastWord? Char.isAlphanum " // " line = none := by
    rw [Option.eq_none_iff_forall_ne_some]
    rintro ⟨code, word⟩ hline
    obtain ⟨rfl, hword⟩ := of_lastWord? hline
    simp only [String.toList_append, List.getLast?_append] at h
    cases hback : word.toList.getLast? with
    | none => simp [hback] at h
    | some c =>
      obtain rfl : c = ';' := by simpa [hback] using h
      exact absurd (hword _ (List.mem_of_getLast? hback)) (by decide)
  rw [codeOf, hnone]

-- How a line joins two members.
structure Joint where
  before : String
  sign : String
  after : String

namespace Joint

def line (j : Joint) (left right : String) : String :=
  j.before ++ left ++ j.sign ++ right ++ j.after

def read? (j : Joint) (line : String) : Option (String × String) := do
  sides? j.sign (← between? j.before j.after (codeOf line))

theorem read_twin {j : Joint} {line name : String} (h : codeOf line = j.line name name) :
    j.read? line = some (name, name) := by
  have hbetween : between? j.before j.after (j.line name name) =
      some (name ++ j.sign ++ name) := by
    rw [between?_eq_some_iff, Joint.line]
    simp only [String.append_assoc]
  rw [read?, h, hbetween, Option.bind_eq_bind, Option.bind_some, sides_twin]

section Statement

variable {j : Joint} (h : j.after.toList.getLast? = some ';')

include h

theorem codeOf_line (left right : String) : codeOf (j.line left right) = j.line left right :=
  codeOf_statement (by simp [line, List.getLast?_append, h])

theorem read_line (name : String) : j.read? (j.line name name) = some (name, name) :=
  read_twin (codeOf_line h name name)

end Statement

-- Two names in one line are told apart.
example : read? ⟨"    row.", " = ", ";"⟩ "    row.A = B;" = some ("A", "B") := by decide

end Joint

-- Each field joined with itself.
def twins (fields : List Field) : List (String × String) := fields.map fun f => (f.name, f.name)

-- How a definition is written whose body goes through pairs of members: its head, what stands
-- in front of the pairs and behind them, and the ways in which a line joins a pair.
structure Shape where
  head : List String
  front : List String
  joints : List Joint
  back : List String

namespace Shape

def readLine? (s : Shape) (line : String) : Option (String × String) :=
  s.joints.findSome? (·.read? line)

theorem readLine_first {s : Shape} {j : Joint} {joints : List Joint} {line : String}
    {pair : String × String} (hs : s.joints = j :: joints) (h : j.read? line = some pair) :
    s.readLine? line = some pair := by
  rw [readLine?, hs, List.findSome?_cons, h]

theorem readLine_second {s : Shape} {j k : Joint} {joints : List Joint} {line : String}
    {pair : String × String} (hs : s.joints = j :: k :: joints) (hj : j.read? line = none)
    (hk : k.read? line = some pair) : s.readLine? line = some pair := by
  rw [readLine?, hs, List.findSome?_cons, hj, List.findSome?_cons, hk]

-- The pairs of members in a definition. Nothing else may stand in it.
def read? (s : Shape) (definition : List String) : Option (List (String × String)) := do
  let rest ← ("" :: s.head ++ ["\x7b"] ++ s.front).isPrefixOf? definition
  let body ← (s.back ++ ["\x7d"]).isSuffixOf? rest
  body.mapM s.readLine?

theorem read_block {s : Shape} {line : Field → String}
    (hread : ∀ f, s.readLine? (line f) = some (f.name, f.name)) (fields : List Field) :
    s.read? (block s.head (s.front ++ fields.map line ++ s.back)) = some (twins fields) := by
  have hpairs : (fields.map line).mapM s.readLine? = some (twins fields) := by
    induction fields with
    | nil => rfl
    | cons f fields ih =>
      rw [List.map_cons, List.mapM_cons, hread, ih]
      rfl
  have hfront : ("" :: s.head ++ ["\x7b"] ++ s.front).isPrefixOf?
      (block s.head (s.front ++ fields.map line ++ s.back)) =
        some (fields.map line ++ (s.back ++ ["\x7d"])) := by
    rw [List.isPrefixOf?_eq_some_iff_append_eq, block]
    simp only [List.cons_append, List.append_assoc]
  have hback : (s.back ++ ["\x7d"]).isSuffixOf? (fields.map line ++ (s.back ++ ["\x7d"])) =
      some (fields.map line) := List.isSuffixOf?_eq_some_iff_append_eq.mpr rfl
  simp only [read?, hfront, hback, hpairs, Option.bind_eq_bind, Option.bind_some]

-- Each field is joined with itself in one line, and there are no other lines.
def TouchesOnce (s : Shape) (definition : List String) (fields : List Field) : Prop :=
  ∃ pairs, s.read? definition = some pairs ∧
    (∀ f ∈ fields, pairs.count (f.name, f.name) = 1) ∧
    ∀ pair ∈ pairs, ∃ f ∈ fields, pair = (f.name, f.name)

theorem touchesOnce_of_read {s : Shape} {definition : List String} {fields : List Field}
    (hnames : (fields.map (·.name)).Nodup) (h : s.read? definition = some (twins fields)) :
    s.TouchesOnce definition fields := by
  have htwins : twins fields = (fields.map (·.name)).map fun name => (name, name) := by
    rw [List.map_map]
    rfl
  have hnodup : (twins fields).Nodup := by
    rw [htwins]
    exact List.Nodup.map (fun _ _ hsame => congrArg Prod.fst hsame) hnames
  refine ⟨twins fields, h, ?_, ?_⟩
  · intro f hf
    exact List.nodup_iff_count_eq_one.mp hnodup _ (List.mem_map.mpr ⟨f, hf, rfl⟩)
  · intro pair hpair
    obtain ⟨f, hf, rfl⟩ := List.mem_map.mp hpair
    exact ⟨f, hf, rfl⟩

end Shape

section Meaning

variable {α : Type}

-- Members of an object are given the values of members of another one.
def copyMembers (pairs : List (String × String)) (source target : String → α) : String → α :=
  pairs.foldl (fun object (own, other) => Function.update object own (source other)) target

-- The test of two objects member by member, which ends with the first difference.
def sameMembers [BEq α] (pairs : List (String × String)) (own other : String → α) : Bool :=
  pairs.all fun (left, right) => own left == other right

theorem copyMembers_twins (fields : List Field) (source target : String → α) (name : String) :
    copyMembers (twins fields) source target name =
      if name ∈ fields.map (·.name) then source name else target name := by
  induction fields generalizing target with
  | nil => rfl
  | cons f fields ih =>
    have hstep : copyMembers (twins (f :: fields)) source target =
        copyMembers (twins fields) source (Function.update target f.name (source f.name)) := rfl
    rw [hstep, ih]
    by_cases hrest : name ∈ fields.map (·.name)
    -- another field of this name sets the member once more, from the same source
    · simp [hrest]
    · by_cases hname : name = f.name
      · simp [hname]
      · simp [hrest, hname]

theorem sameMembers_twins_iff [BEq α] (fields : List Field) (own other : String → α) :
    sameMembers (twins fields) own other = true ↔ ∀ f ∈ fields, own f.name == other f.name := by
  simp [sameMembers, twins]

-- What a definition makes of an object whose members it sets from another one.
def Shape.copied? (s : Shape) (definition : List String) (source target : String → α) :
    Option (String → α) :=
  (s.read? definition).map (copyMembers · source target)

-- The answer of a definition that compares an object with another one.
def Shape.compared? [BEq α] (s : Shape) (definition : List String) (own other : String → α) :
    Option Bool :=
  (s.read? definition).map (sameMembers · own other)

end Meaning

namespace DataImplementation

-- The definitions of the implementation, in their order.
def definitions (t : Table) : List (List String) :=
  [Member.defaultConstructor t.dataClass t.fields, toRow t, fromRow t,
    Member.assignmentOperator t.dataClass t.fields, Member.equality t.dataClass t.fields]

theorem infix_lines {t : Table} {body : List String} (h : body ∈ definitions t) :
    body <:+: lines t := by
  obtain ⟨head, hlines⟩ : ∃ head, lines t = (head :: definitions t).flatten :=
    ⟨_, by
      simp only [lines, definitions, List.flatten_cons, List.flatten_nil, List.append_nil,
        List.append_assoc]
      rfl⟩
  rw [hlines]
  exact List.infix_of_mem_flatten (List.mem_cons_of_mem _ h)

def toRowShape (t : Table) : Shape where
  head := ["// Convert " ++ t.dataClass ++ " to " ++ t.rowClass,
    t.rowClass ++ " " ++ t.dataClass ++ "::to_row() const"]
  front := ["    " ++ t.rowClass ++ " row;", ""]
  joints := [⟨"    row.", " = ", ";"⟩]
  back := ["", "    return row;"]

def fromRowShape (t : Table) : Shape where
  head := ["// Convert " ++ t.rowClass ++ " to " ++ t.dataClass,
    t.dataClass ++ "& " ++ t.dataClass ++ "::from_row(const " ++ t.rowClass ++ "& row)"]
  front := []
  joints := [⟨"    ", " = row.", ";"⟩]
  back := ["", "    return *this;"]

theorem read_toRow (t : Table) :
    (toRowShape t).read? (toRow t) = some (twins t.fields.declared) := by
  refine Shape.read_block (fun f => ?_) t.fields.declared
  have hline := Joint.read_line (j := ⟨"    row.", " = ", ";"⟩) (by decide) f.name
  exact Shape.readLine_first rfl hline

theorem read_fromRow (t : Table) :
    (fromRowShape t).read? (fromRow t) = some (twins t.fields.declared) := by
  refine Shape.read_block (fun f => ?_) t.fields.declared
  let j : Joint := ⟨"    ", " = row.", ";"⟩
  have hline : "    " ++ f.name ++ " = row." ++ f.name ++ "; // " ++ f.kind.memberType =
      j.line f.name f.name ++ " // " ++ f.kind.memberType := by
    have hcomment : "; // " = ";" ++ " // " := by decide
    rw [hcomment, ← String.append_assoc]
    rfl
  have hcode : codeOf (j.line f.name f.name ++ " // " ++ f.kind.memberType) =
      j.line f.name f.name := codeOf_comment (by cases f.kind <;> decide)
  rw [hline]
  exact Shape.readLine_first rfl (Joint.read_twin hcode)

end DataImplementation

namespace Member

def assignmentShape (owner : String) : Shape where
  head := [owner ++ "& " ++ owner ++ "::operator= (const " ++ owner ++ "& other)"]
  front := ["    if (this == &other) return *this;", ""]
  joints := [⟨"    ", " = other.", ";"⟩]
  back := ["", "    return *this;"]

def equalityShape (owner : String) : Shape where
  head := ["bool " ++ owner ++ "::equals(const " ++ owner ++ "* other) const"]
  front := []
  joints := [⟨"    if (!", ".IsSameAs(other->", ")) return false;"⟩,
    ⟨"    if ( ", " != other->", ") return false;"⟩]
  back := ["", "    return true;"]

theorem read_assignmentOperator (owner : String) (fields : KeyedFields) :
    (assignmentShape owner).read? (assignmentOperator owner fields) =
      some (twins fields.declared) := by
  refine Shape.read_block (fun f => ?_) fields.declared
  have hline := Joint.read_line (j := ⟨"    ", " = other.", ";"⟩) (by decide) f.name
  exact Shape.readLine_first rfl hline

-- The tests of a text and of any other member differ in the character behind the parenthesis.
theorem readLine_difference (owner : String) (f : Field) :
    (equalityShape owner).readLine? (difference f) = some (f.name, f.name) := by
  let text : Joint := ⟨"    if (!", ".IsSameAs(other->", ")) return false;"⟩
  let other : Joint := ⟨"    if ( ", " != other->", ") return false;"⟩
  have htext : text.read? (text.line f.name f.name) = some (f.name, f.name) :=
    Joint.read_line (by decide) f.name
  have hother : other.read? (other.line f.name f.name) = some (f.name, f.name) :=
    Joint.read_line (by decide) f.name
  have hapart : text.read? (other.line f.name f.name) = none := by
    have hnone : between? text.before text.after (other.line f.name f.name) = none := by
      rw [Option.eq_none_iff_forall_ne_some]
      intro inner hinner
      rw [between?_eq_some_iff] at hinner
      have hmark := congrArg (fun s : String => s.toList[8]?) hinner
      simp [text, other, Joint.line] at hmark
    rw [Joint.read?, Joint.codeOf_line (by decide), hnone]
    rfl
  unfold difference
  cases f.kind with
  | text => exact Shape.readLine_first rfl htext
  | real => exact Shape.readLine_second rfl hapart hother
  | integer => exact Shape.readLine_second rfl hapart hother
  | date => exact Shape.readLine_second rfl hapart hother

theorem read_equality (owner : String) (fields : KeyedFields) :
    (equalityShape owner).read? (equality owner fields) = some (twins fields.declared) :=
  Shape.read_block (readLine_difference owner) fields.declared

end Member

end TableForge.Code
