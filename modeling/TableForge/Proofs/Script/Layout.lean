import TableForge.Proofs.Script.Tokens
import TableForge.Proofs.Text.Join
import TableForge.Text.Lines
import Mathlib.Data.List.Chain

namespace TableForge.Script

open Token

-- A part of a statement as it is laid out.
inductive Part where
  | blank
  | word (s : String)
  | mark (c : Char)
  | text (s : String)
  deriving DecidableEq, Repr

namespace Part

def chars : Part → List Char
  | .blank => [' ']
  | .word s => s.toList
  | .mark c => [c]
  | .text s => Text.Quoted.quote s.toList

def tokens : Part → List Token
  | .blank => []
  | .word s => [.word s]
  | .mark c => [.symbol (String.singleton c)]
  | .text s => [.text s]

@[simp] theorem chars_blank : Part.blank.chars = [' '] := rfl

@[simp] theorem chars_word (s : String) : (Part.word s).chars = s.toList := rfl

@[simp] theorem chars_mark (c : Char) : (Part.mark c).chars = [c] := rfl

@[simp] theorem tokens_blank : Part.blank.tokens = [] := rfl

@[simp] theorem tokens_word (s : String) : (Part.word s).tokens = [.word s] := rfl

@[simp] theorem tokens_mark (c : Char) :
    (Part.mark c).tokens = [.symbol (String.singleton c)] := rfl

-- The part is one token, or none.
def IsSound : Part → Prop
  | .word s => IsName s
  | .mark c => c ∈ marks
  | _ => True

instance : DecidablePred IsSound
  | .blank => isTrue trivial
  | .word s => inferInstanceAs (Decidable (IsName s))
  | .mark c => inferInstanceAs (Decidable (c ∈ marks))
  | .text _ => isTrue trivial

-- The part does not run on into the characters behind it.
def EndsBefore : Part → List Char → Prop
  | .blank, rest => ∀ c ∈ rest.head?, continuesSpace c = false
  | .word _, rest => ∀ c ∈ rest.head?, isNameChar c = false ∧ c ≠ '\''
  | .mark c, rest => c = '=' → rest.head? ≠ some '='
  | .text _, rest => rest.head? ≠ some '\''

-- Of two parts in a row, the first one ends where the second one begins.
def fits : Part → Part → Bool
  | .blank, .blank => false
  | .word _, .word _ | .word _, .text _ => false
  | .mark c, .mark d => c ≠ '=' || d ≠ '='
  | .text _, .text _ => false
  | _, _ => true

variable {p q : Part} {parts : List Part}

theorem tokensOf_part (hp : p.IsSound) {rest : List Char} (h : p.EndsBefore rest) :
    tokensOf (p.chars ++ rest) = p.tokens ++ tokensOf rest := by
  cases p with
  | blank => exact tokensOf_space (by decide) h
  | word s => exact tokensOf_word hp h
  | mark c => exact tokensOf_mark hp h
  | text s => exact tokensOf_quote s h

-- A part has a first character, which tells what kind of part it is.
theorem exists_chars_eq (hp : p.IsSound) :
    ∃ c rest, p.chars = c :: rest ∧
      (p ≠ .blank → continuesSpace c = false) ∧
      ((∀ s, p ≠ .word s) → isNameChar c = false) ∧
      ((∀ s, p ≠ .text s) → c ≠ '\'') ∧ (p ≠ .mark '=' → c ≠ '=') := by
  have hmarks : ∀ d ∈ marks, continuesSpace d = false ∧ isNameChar d = false ∧ d ≠ '\'' :=
    List.all_iff_forall_prop.mp (by decide)
  cases p with
  | blank => exact ⟨' ', [], rfl, by simp, fun _ => by decide, fun _ => by decide, fun _ => by decide⟩
  | word s =>
    obtain ⟨c, rest, hchars, hstart, hspace, -⟩ := IsName.exists_cons hp
    have hne {d : Char} (hd : isWordStart d = false) : c ≠ d := ne_of_isWordStart hstart hd
    refine ⟨c, rest, hchars, fun _ => ?_, fun h => absurd rfl (h s), fun _ => hne (by decide),
      fun _ => hne (by decide)⟩
    simp [continuesSpace, hspace, hne (d := '\x0b') (by decide)]
  | mark c =>
    obtain ⟨hspace, hname, hquote⟩ := hmarks c hp
    exact ⟨c, [], rfl, fun _ => hspace, fun _ => hname, fun _ => hquote,
      fun h heq => h (congrArg mark heq)⟩
  | text s =>
    exact ⟨'\'', _, rfl, fun _ => by decide, fun _ => by decide, fun h => absurd rfl (h s),
      fun _ => by decide⟩

theorem endsBefore_of_fits (hq : q.IsSound) (h : fits p q) (rest : List Char) :
    p.EndsBefore (q.chars ++ rest) := by
  obtain ⟨c, more, hchars, hspace, hname, hquote, hequals⟩ := exists_chars_eq hq
  rw [hchars, List.cons_append]
  cases p with
  | blank =>
    rintro d ⟨⟩
    exact hspace (by rintro rfl; simp [fits] at h)
  | word s =>
    rintro d ⟨⟩
    exact ⟨hname (by rintro s rfl; simp [fits] at h), hquote (by rintro s rfl; simp [fits] at h)⟩
  | mark d =>
    rintro rfl heq
    exact hequals (by rintro rfl; simp [fits] at h) (Option.some.inj heq)
  | text s =>
    intro heq
    exact hquote (by rintro s rfl; simp [fits] at h) (Option.some.inj heq)

-- A text that is laid out with parts that fit is read as their tokens.
theorem tokensOf_parts (hsound : ∀ p ∈ parts, p.IsSound)
    (hfits : parts.IsChain fun p q => fits p q) {rest : List Char}
    (hlast : ∀ p ∈ parts.getLast?, p.EndsBefore rest) :
    tokensOf (parts.flatMap chars ++ rest) = parts.flatMap tokens ++ tokensOf rest := by
  induction parts with
  | nil => rfl
  | cons p parts ih =>
    obtain ⟨hp, hsound⟩ := List.forall_mem_cons.mp hsound
    cases parts with
    | nil => simpa using tokensOf_part hp (hlast p rfl)
    | cons q parts =>
      obtain ⟨hpq, hfits⟩ := List.isChain_cons_cons.mp hfits
      have hq := hsound q List.mem_cons_self
      have hends := endsBefore_of_fits hq hpq (parts.flatMap chars ++ rest)
      have ih := ih hsound hfits hlast
      simp only [List.flatMap_cons, List.append_assoc] at ih ⊢
      rw [tokensOf_part hp hends, ih]

-- Items with commas between them.
def listed (items : List (List Part)) : List Part := [.mark ',', .blank].intercalate items

theorem flatMap_listed {α : Type} (f : Part → List α) (items : List (List Part)) :
    (listed items).flatMap f =
      (f (.mark ',') ++ f .blank).intercalate (items.map fun item => item.flatMap f) := by
  rw [listed, flatMap_intercalate]
  simp

-- Parts that fit in each place of a list.
structure IsItem (item : List Part) : Prop where
  fits : item.IsChain fun p q => Part.fits p q
  bare : .blank ∉ item
  nonempty : item ≠ []

-- What may stand behind an item: a blank, or a mark that cannot become longer.
def isStop : Part → Bool
  | .blank => true
  | .mark c => c ≠ '='
  | _ => false

theorem isChain_item {item back : List Part} (hitem : IsItem item)
    (hback : back.IsChain fun p q => fits p q) (hstop : ∀ p ∈ back.head?, isStop p) :
    (item ++ back).IsChain (fun p q => fits p q) ∧ ∀ p ∈ (item ++ back).head?, p ≠ .blank := by
  constructor
  · refine List.isChain_append.mpr ⟨hitem.fits, hback, fun p hp q hq => ?_⟩
    have hne : p ≠ .blank := fun heq => hitem.bare (heq ▸ List.mem_of_getLast? hp)
    have hq := hstop q hq
    cases p <;> cases q <;> simp_all [Part.fits, isStop]
  · intro p hp heq
    rw [List.head?_append_of_ne_nil _ hitem.nonempty] at hp
    exact hitem.bare (heq ▸ List.mem_of_head? hp)

-- In front of a list stands a blank or a parenthesis.
theorem isChain_front (front : List Part) {back : List Part}
    (hfront : front.IsChain fun p q => fits p q)
    (hlast : ∀ p ∈ front.getLast?, p = .blank ∨ p = .mark '(')
    (hback : back.IsChain fun p q => fits p q) (hhead : ∀ p ∈ back.head?, p ≠ .blank) :
    (front ++ back).IsChain fun p q => fits p q := by
  refine List.isChain_append.mpr ⟨hfront, hback, fun p hp q hq => ?_⟩
  have hq := hhead q hq
  obtain rfl | rfl := hlast p hp
  · cases q <;> simp_all [Part.fits]
  · cases q <;> simp [Part.fits]

theorem isChain_listed (items : List (List Part)) (back : List Part)
    (hitems : ∀ item ∈ items, IsItem item) (hne : items ≠ [])
    (hback : back.IsChain fun p q => fits p q) (hstop : ∀ p ∈ back.head?, isStop p) :
    (listed items ++ back).IsChain (fun p q => fits p q) ∧
      ∀ p ∈ (listed items ++ back).head?, p ≠ .blank := by
  induction items with
  | nil => exact absurd rfl hne
  | cons item rest ih =>
    obtain ⟨hitem, hrest⟩ := List.forall_mem_cons.mp hitems
    cases rest with
    | nil =>
      rw [listed, List.intercalate_singleton]
      exact isChain_item hitem hback hstop
    | cons next rest =>
      obtain ⟨hchain, hhead⟩ := ih hrest (by simp)
      have hmore : (.mark ',' :: .blank :: (listed (next :: rest) ++ back)).IsChain
          fun p q => fits p q := by
        refine List.isChain_cons_cons.mpr ⟨by decide, List.isChain_cons.mpr ⟨?_, hchain⟩⟩
        intro p hp
        have hne := hhead p hp
        cases p <;> simp_all [Part.fits]
      have hwhole := isChain_item hitem hmore (by simp [isStop])
      have hsplit : listed (item :: next :: rest) ++ back =
          item ++ .mark ',' :: .blank :: (listed (next :: rest) ++ back) := by
        simp [listed, List.intercalate_cons_cons]
      rwa [hsplit]

end Part

-- A line of a script and its tokens, whatever lines stand below it.
structure Spells (line : String) (tokens : List Token) : Prop where
  begins : ∃ c rest, line.toList = c :: rest ∧ continuesSpace c = false
  reads : ∀ rest : List Char, (∀ c ∈ rest.head?, continuesSpace c = false) →
    tokensOf (line.toList ++ '\n' :: rest) = tokens ++ tokensOf rest

section Lines

variable {line : String} {parts : List Part}

theorem spells_comment {s : List Char} (hline : line.toList = '-' :: '-' :: s) (hs : '\n' ∉ s) :
    Spells line [] where
  begins := ⟨'-', '-' :: s, hline, by decide⟩
  reads := by
    intro rest hrest
    rw [hline, tokensOf_comment hs, tokensOf_space (by decide) hrest, List.nil_append]

-- A line with a statement and its semicolon.
theorem spells_statement (hline : line.toList = parts.flatMap Part.chars ++ [';'])
    (hsound : ∀ p ∈ parts, p.IsSound) (hfits : parts.IsChain fun p q => Part.fits p q)
    (hfirst : ∃ s, parts.head? = some (.word s)) (hlast : ∀ p ∈ parts.getLast?, p ≠ .mark '=') :
    Spells line (parts.flatMap Part.tokens ++ [.symbol ";"]) where
  begins := by
    obtain ⟨s, hfirst⟩ := hfirst
    obtain ⟨rest, rfl⟩ := List.head?_eq_some_iff.mp hfirst
    obtain ⟨c, more, hchars, hspace, -⟩ := Part.exists_chars_eq (hsound _ List.mem_cons_self)
    exact ⟨c, _, by rw [hline, List.flatMap_cons, hchars]; rfl, hspace (by simp)⟩
  reads := by
    intro rest hrest
    have hend : Part.IsSound (.mark ';') := by decide
    have hafter : Part.EndsBefore (.mark ';') ('\n' :: rest) := fun heq => absurd heq (by decide)
    have hends : ∀ p ∈ parts.getLast?, p.EndsBefore (';' :: '\n' :: rest) := by
      intro p hp
      refine Part.endsBefore_of_fits hend ?_ ('\n' :: rest)
      have hne := hlast p hp
      cases p <;> simp_all [Part.fits]
    have hsemicolon := Part.tokensOf_part hend hafter
    simp only [Part.chars, List.singleton_append] at hsemicolon
    rw [hline, List.append_assoc, List.singleton_append, Part.tokensOf_parts hsound hfits hends,
      hsemicolon, tokensOf_space (by decide) hrest, List.append_assoc]
    rfl

-- A script has the tokens of its lines.
theorem tokensOf_unlines {lines : List String} {tokens : List (List Token)}
    (h : List.Forall₂ Spells lines tokens) :
    tokensOf (Text.unlines lines).toList = tokens.flatten := by
  have hbelow {lines : List String} {tokens : List (List Token)}
      (h : List.Forall₂ Spells lines tokens) :
      ∀ c ∈ (Text.unlines lines).toList.head?, continuesSpace c = false := by
    cases h with
    | nil => simp [Text.unlines]
    | cons hline _ =>
      obtain ⟨c, rest, hchars, hc⟩ := hline.begins
      simp [Text.unlines, hchars, hc]
  induction h with
  | nil => rfl
  | @cons line these lines tokens hline hrest ih =>
    have htext : (Text.unlines (line :: lines)).toList =
        line.toList ++ '\n' :: (Text.unlines lines).toList := by
      simp [Text.unlines]
    rw [htext, hline.reads _ (hbelow hrest), ih, List.flatten_cons]

-- The statements of a text, each as its tokens: what semicolons part, as far as it has tokens.
def statementsOf (s : List Char) : List (List Token) :=
  ((tokensOf s).splitOn (.symbol ";")).filter (· ≠ [])

-- Statements that end with semicolons and have none inside are found again.
theorem statementsOf_eq {s : List Char} {statements : List (List Token)}
    (h : tokensOf s = statements.flatMap (· ++ [.symbol ";"]))
    (hwhole : ∀ statement ∈ statements, statement ≠ [] ∧ .symbol ";" ∉ statement) :
    statementsOf s = statements := by
  have hsplit (rest : List (List Token)) (hrest : ∀ statement ∈ rest,
      statement ≠ [] ∧ .symbol ";" ∉ statement) :
      (rest.flatMap (· ++ [.symbol ";"])).splitOn (.symbol ";") = rest ++ [[]] := by
    induction rest with
    | nil => rfl
    | cons statement rest ih =>
      obtain ⟨⟨-, hfree⟩, hrest⟩ := List.forall_mem_cons.mp hrest
      have hnone : ∀ t ∈ statement, (t == Token.symbol ";") = false := by
        intro t ht
        exact beq_false_of_ne fun heq => hfree (heq ▸ ht)
      rw [List.flatMap_cons, List.append_assoc, List.singleton_append, List.splitOn,
        List.splitOnP_append_cons_of_forall_mem hnone _ (by simp), List.cons_append, ← ih hrest]
      rfl
  rw [statementsOf, h, hsplit statements hwhole]
  have hkept : statements.filter (· ≠ []) = statements :=
    List.filter_eq_self.mpr fun statement hmem => decide_eq_true (hwhole statement hmem).1
  rw [List.filter_append, hkept]
  simp

end Lines

end TableForge.Script
