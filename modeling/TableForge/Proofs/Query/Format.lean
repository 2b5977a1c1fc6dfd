import TableForge.Proofs.Code.StringLiteral
import TableForge.Proofs.Text.Join
import TableForge.Proofs.Text.Quoted
import TableForge.Query

namespace TableForge

namespace Literal

open Code.StringLiteral

-- The text that an argument gives when the generated code runs. A text whose translation is
-- asked for stands for itself.
def runTime? (argument : String) : Option (List Char) :=
  match argument.toList with
  | 'L' :: literal => decode? literal
  | '_' :: '(' :: '"' :: rest =>
    match readBody rest with
    | some (s, [')']) => some s
    | _ => none
  | _ => none

-- The text of the literal as it was taken from the row, or its token.
def source : Literal → List Char
  | .plain token => token.toList
  | .localized s => s.toList
  | .wide s => s.toList

-- The text that fills the slot of a wrapped literal.
def content? : Literal → Option (List Char)
  | .plain _ => none
  | .localized s => some s.toList
  | .wide s => some (Text.double '\'' s.toList)

-- What the executed statement has in the place of the literal.
def executed : Literal → List Char
  | .plain token => token.toList
  | .localized s => '\'' :: (s.toList ++ ['\''])
  | .wide s => Text.Quoted.quote s.toList

theorem exists_plain {l : Literal} (h : ¬l.isWrapped) : ∃ token, l = .plain token := by
  cases l with
  | plain token => exact ⟨token, rfl⟩
  | localized s => exact absurd rfl h
  | wide s => exact absurd rfl h

theorem oneLine_double {q : Char} {s : List Char} (h : OneLine s) : OneLine (Text.double q s) :=
  fun _ hc => h _ (Text.mem_double.mp hc)

-- An argument without line breaks gives back the content that it was written for.
theorem runTime_argument {l : Literal} {argument : String} (hl : OneLine l.source)
    (h : l.argument? = some argument) : runTime? argument = l.content? := by
  cases l with
  | plain token => simp [argument?] at h
  | localized s =>
    obtain rfl := Option.some.inj h
    have hs : OneLine s.toList := hl
    have hfold := foldLines_eq_self none hs
    have htext : ("_(" ++ render s ++ ")").toList =
        '_' :: '(' :: '"' :: (s.toList.flatMap escapeChar ++ '"' :: [')']) := by
      simp [render, encode, hfold]
    simp only [runTime?, htext, readBody_escape hs, content?]
  | wide s =>
    obtain rfl := Option.some.inj h
    have hfold : foldLines none (Text.double '\'' s.toList) = Text.double '\'' s.toList :=
      foldLines_eq_self none (oneLine_double hl)
    have htext : ("L" ++ render (String.ofList (Text.double '\'' s.toList))).toList =
        'L' :: encode (Text.double '\'' s.toList) := by
      simp [render]
    simp only [runTime?, htext, content?, decode_encode, hfold]

theorem runTime_arguments {ls : List Literal} (h : ∀ l ∈ ls, OneLine l.source) :
    (ls.filterMap argument?).mapM runTime? = some (ls.filterMap content?) := by
  induction ls with
  | nil => rfl
  | cons l ls ih =>
    have ih := ih fun k hk => h k (List.mem_cons_of_mem _ hk)
    have hl := h l (by simp)
    cases hc : l.content? with
    | none =>
      have ha : l.argument? = none := by cases l <;> simp_all [argument?, content?]
      rw [List.filterMap_cons_none ha, List.filterMap_cons_none hc, ih]
    | some content =>
      obtain ⟨argument, ha⟩ : ∃ argument, l.argument? = some argument := by
        cases l <;> simp_all [argument?, content?]
      rw [List.filterMap_cons_some ha, List.filterMap_cons_some hc, List.mapM_cons,
        runTime_argument hl ha, hc, ih]
      rfl

end Literal

namespace SeedInsert

open Code.StringLiteral (OneLine)
open Literal (content? executed)

-- A format with its slots filled: two percent signs give one, and each slot takes the next
-- text. All texts must be taken.
def expand : List Char → List (List Char) → Option (List Char)
  | [], [] => some []
  | [], _ :: _ => none
  | '%' :: '%' :: rest, texts => (expand rest texts).map ('%' :: ·)
  | '%' :: 's' :: rest, s :: texts => (expand rest texts).map (s ++ ·)
  | c :: rest, texts => if c = '%' then none else (expand rest texts).map (c :: ·)

-- The statement that is executed for a seed row.
def executed? (s : SeedInsert) : Option (List Char) :=
  if s.isFormatted then do
    let texts ← s.arguments.mapM Literal.runTime?
    expand s.text.toList texts
  else some s.text.toList

-- A part of a format takes texts and gives what is shown for it, whatever stands behind it.
def Expands (part : List Char) (texts : List (List Char)) (shown : List Char) : Prop :=
  ∀ format others, expand (part ++ format) (texts ++ others) =
    (expand format others).map (shown ++ ·)

theorem Expands.append {part next shown more : List Char} {texts later : List (List Char)}
    (h : Expands part texts shown) (hnext : Expands next later more) :
    Expands (part ++ next) (texts ++ later) (shown ++ more) := by
  intro format others
  rw [List.append_assoc, List.append_assoc, h, hnext, Option.map_map]
  simp [Function.comp_def]

-- A text with its percent signs doubled stands for itself.
theorem expands_double (s : List Char) : Expands (Text.double '%' s) [] s := by
  intro format others
  rw [List.nil_append]
  induction s with
  | nil => simp
  | cons c s ih =>
    by_cases hc : c = '%'
    · subst c
      rw [Text.double_cons_self, List.cons_append, List.cons_append, expand, ih, Option.map_map]
      rfl
    · rw [Text.double_cons_of_ne hc, List.cons_append]
      simp [expand, hc, ih, Function.comp_def]

theorem expands_of_not_mem {s : List Char} (h : '%' ∉ s) : Expands s [] s := by
  have hdouble := expands_double s
  rwa [Text.double_eq_self h] at hdouble

theorem expands_plain (token : String) :
    Expands (slot true (.plain token)).toList [] token.toList := by
  simpa [slot] using expands_double token.toList

-- A slot takes one text and puts it between quotes.
theorem expands_wrapped {l : Literal} (h : l.isWrapped) (s : List Char) :
    Expands (slot true l).toList [s] ('\'' :: s ++ ['\'']) := by
  have hslot : (slot true l).toList = '\'' :: '%' :: 's' :: ['\''] := by
    cases l with
    | plain token => cases h
    | localized text => simp [slot]
    | wide text => simp [slot]
  intro format others
  simp [hslot, expand, Function.comp_def]

-- The values of a statement with texts in the slots of its wrapped literals, one after the other.
def filled : List Literal → List (List Char) → List (List Char)
  | .plain token :: ls, texts => token.toList :: filled ls texts
  | _ :: ls, s :: texts => ('\'' :: s ++ ['\'']) :: filled ls texts
  | _, _ => []

theorem filled_wrapped {l : Literal} (h : l.isWrapped) (ls : List Literal) (s : List Char)
    (texts : List (List Char)) :
    filled (l :: ls) (s :: texts) = ('\'' :: s ++ ['\'']) :: filled ls texts := by
  cases l with
  | plain token => cases h
  | localized text => rfl
  | wide text => rfl

-- The first literal takes a text if it is wrapped, and leaves the others to the rest.
theorem filled_cons {l : Literal} {ls : List Literal} {texts : List (List Char)}
    (h : texts.length = (l :: ls).countP Literal.isWrapped) :
    ∃ own rest shown, texts = own ++ rest ∧ rest.length = ls.countP Literal.isWrapped ∧
      Expands (slot true l).toList own shown ∧
      filled (l :: ls) texts = shown :: filled ls rest := by
  by_cases hl : l.isWrapped
  · rw [List.countP_cons_of_pos hl] at h
    obtain ⟨s, rest, rfl⟩ := List.exists_cons_of_length_eq_add_one h
    rw [List.length_cons, Nat.add_right_cancel_iff] at h
    exact ⟨[s], rest, _, rfl, h, expands_wrapped hl s, filled_wrapped hl ls s rest⟩
  · rw [List.countP_cons_of_neg hl] at h
    obtain ⟨token, rfl⟩ := Literal.exists_plain hl
    exact ⟨[], texts, _, rfl, h, expands_plain token, rfl⟩

-- A list of values with as many texts as it has wrapped literals.
theorem expands_list {ls : List Literal} {texts : List (List Char)}
    (h : texts.length = ls.countP Literal.isWrapped) :
    Expands (", ".toList.intercalate (ls.map fun l => (slot true l).toList)) texts
      (", ".toList.intercalate (filled ls texts)) := by
  induction ls generalizing texts with
  | nil =>
    obtain rfl : texts = [] := by simpa using h
    exact expands_of_not_mem (by simp)
  | cons l ls ih =>
    obtain ⟨own, rest, shown, rfl, hrest, hslot, hfilled⟩ := filled_cons h
    have ih := ih hrest
    rw [hfilled]
    cases ls with
    | nil =>
      obtain rfl : rest = [] := by simpa using hrest
      simpa [filled, List.intercalate_singleton] using hslot
    | cons next ls =>
      obtain ⟨-, others, second, -, -, -, hsecond⟩ := filled_cons hrest
      have hseparator : Expands ", ".toList [] ", ".toList := expands_of_not_mem (by decide)
      rw [hsecond] at ih ⊢
      simpa [List.intercalate_cons_cons] using hslot.append (hseparator.append ih)

theorem length_contents (ls : List Literal) :
    (ls.filterMap content?).length = ls.countP Literal.isWrapped := by
  induction ls with
  | nil => rfl
  | cons l ls ih =>
    cases l <;> simpa [content?, Literal.isWrapped, List.filterMap_cons, List.countP_cons] using ih

theorem filled_contents (ls : List Literal) :
    filled ls (ls.filterMap content?) = ls.map executed := by
  induction ls with
  | nil => rfl
  | cons l ls ih =>
    cases l <;>
      simpa [filled, content?, executed, Text.Quoted.quote, List.filterMap_cons] using ih

-- The start of the statement, which has no slots.
def head (s : SeedInsert) : List Char :=
  "INSERT INTO ".toList ++ (s.table.toList ++ " VALUES (".toList)

theorem toList_text (s : SeedInsert) :
    s.text.toList = s.head ++ (", ".toList.intercalate
      (s.literals.map fun l => (slot s.isFormatted l).toList) ++ [')']) := by
  have hclose : ")".toList = [')'] := rfl
  unfold text head valueList
  simp only [String.toList_append, Text.toList_join, List.map_map, hclose, List.append_assoc]
  rfl

-- A seed row is executed with the contents of its literals in place.
theorem executed_eq {s : SeedInsert} (htable : '%' ∉ s.table.toList)
    (hlines : ∀ l ∈ s.literals, OneLine l.source) :
    s.executed? =
      some (s.head ++ (", ".toList.intercalate (s.literals.map executed) ++ [')'])) := by
  unfold executed?
  split
  · rename_i hf
    have hhead : '%' ∉ s.head := by
      unfold head
      simp only [List.mem_append]
      rintro (h | h | h)
      · exact absurd h (by decide)
      · exact htable h
      · exact absurd h (by decide)
    have hvalues := expands_list (length_contents s.literals)
    rw [filled_contents] at hvalues
    have hstatement := (expands_of_not_mem hhead).append hvalues [')'] []
    rw [arguments, Literal.runTime_arguments hlines, toList_text, hf]
    simpa [expand] using hstatement
  · rename_i hf
    have hplain : ∀ l ∈ s.literals, (slot s.isFormatted l).toList = l.executed := by
      intro l hl
      cases l with
      | plain token => simp [slot, executed, hf]
      | localized x => exact absurd (List.any_eq_true.mpr ⟨_, hl, rfl⟩) hf
      | wide x => exact absurd (List.any_eq_true.mpr ⟨_, hl, rfl⟩) hf
    rw [toList_text, List.map_congr_left hplain]

end SeedInsert

end TableForge
