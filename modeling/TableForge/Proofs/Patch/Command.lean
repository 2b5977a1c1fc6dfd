import TableForge.Patch
import TableForge.Proofs.Script.Layout

namespace TableForge.Patch

open Script (Token Part IsName)

-- The text of a value as a script writes it, without markers. NULL has none.
def content : Value → Option String
  | .null => none
  | .int i => some (toString i)
  | .real x => some x.text
  | .text s => some (Marker.cleanText s)

-- The value of a row under a name, which is NULL if the row has none.
def valueOf (row : Row) (name : String) : Value := (row.get? name).getD .null

-- The cells of a row besides the primary key and the natural key.
def otherCells (settings : PatchSettings) (t : Table) (row : Row) : Row :=
  row.filter fun (column, _) =>
    !Text.sameLetters column t.fields.key.name && !Text.sameLetters column settings.naturalKey

-- A statement of a script by what it means: columns with their contents.
inductive Command where
  -- a row with these contents is added
  | add (table : String) (cells : List (String × Option String))
  -- these contents are given to the rows in which the key has its content
  | overwrite (table : String) (cells : List (String × Option String))
      (key : String × Option String)
  deriving DecidableEq, Repr

namespace Command

-- A content as a token: NULL, or a quoted literal.
def literal : Option String → Token
  | none => .word "NULL"
  | some s => .text s

def commaSeparated (items : List (List Token)) : List Token := [.symbol ","].intercalate items

-- The tokens of the statement, without its semicolon.
def tokens : Command → List Token
  | .add table cells =>
    [.word "INSERT", .word "OR", .word "IGNORE", .word "INTO", .word table, .symbol "("] ++
      commaSeparated (cells.map fun cell => [.word cell.1]) ++
      [.symbol ")", .word "VALUES", .symbol "("] ++
      commaSeparated (cells.map fun cell => [literal cell.2]) ++ [.symbol ")"]
  | .overwrite table cells key =>
    [.word "UPDATE", .word "OR", .word "IGNORE", .word table, .word "SET"] ++
      commaSeparated (cells.map fun cell => [.word cell.1, .symbol "=", literal cell.2]) ++
      [.word "WHERE", .word key.1, .symbol "=", literal key.2]

end Command

-- What a script is to say for a row: the display name and the natural key of a row that must be
-- there, and then all its other cells but the primary key, if there are any.
def commandsFor (settings : PatchSettings) (t : Table) (row : Row) : List Command :=
  let cell (name : String) := (name, content (valueOf row name))
  .add t.name [cell settings.nameField, cell settings.naturalKey] ::
    match otherCells settings t row with
    | [] => []
    | others => [.overwrite t.name (others.map fun (column, v) => (column, content v))
        (cell settings.naturalKey)]

namespace Command

def literalPart : Option String → Part
  | none => .word "NULL"
  | some s => .text s

-- The layout of the statement.
def parts : Command → List Part
  | .add table cells =>
    [.word "INSERT", .blank, .word "OR", .blank, .word "IGNORE", .blank, .word "INTO", .blank,
      .word table, .blank, .mark '('] ++
      (Part.listed (cells.map fun cell => [.word cell.1]) ++
        ([.mark ')', .blank, .word "VALUES", .blank, .mark '('] ++
          (Part.listed (cells.map fun cell => [literalPart cell.2]) ++ [.mark ')'])))
  | .overwrite table cells key =>
    [.word "UPDATE", .blank, .word "OR", .blank, .word "IGNORE", .blank, .word table, .blank,
      .word "SET", .blank] ++
      (Part.listed (cells.map fun cell => [.word cell.1, .mark '=', literalPart cell.2]) ++
        [.blank, .word "WHERE", .blank, .word key.1, .mark '=', literalPart key.2])

-- The names in the statement need no quotes, and it has columns.
def IsPlain : Command → Prop
  | .add table cells => IsName table ∧ cells ≠ [] ∧ ∀ cell ∈ cells, IsName cell.1
  | .overwrite table cells key =>
    IsName table ∧ cells ≠ [] ∧ (∀ cell ∈ cells, IsName cell.1) ∧ IsName key.1

theorem tokens_literalPart (c : Option String) : (literalPart c).tokens = [literal c] := by
  cases c <;> rfl

theorem tokens_parts (c : Command) : c.parts.flatMap Part.tokens = c.tokens := by
  have hsymbols : String.singleton ',' = "," ∧ String.singleton '(' = "(" ∧
      String.singleton ')' = ")" ∧ String.singleton '=' = "=" := by decide
  cases c <;>
    simp [parts, tokens, Part.flatMap_listed, commaSeparated, tokens_literalPart,
      Function.comp_def, hsymbols]

-- The statement has tokens, and no semicolon among them.
theorem tokens_whole (c : Command) : c.tokens ≠ [] ∧ .symbol ";" ∉ c.tokens := by
  have hliteral (content : Option String) : literal content ≠ .symbol ";" := by
    cases content <;> simp [literal]
  have hlisted {cells : List (String × Option String)} {f : String × Option String → List Token}
      (h : ∀ cell ∈ cells, ∀ t ∈ f cell, t ≠ .symbol ";") :
      ∀ t ∈ commaSeparated (cells.map f), t ≠ .symbol ";" :=
    (forall_mem_intercalate (by decide)).mpr (List.forall_mem_map.mpr h)
  have hnone {tokens : List Token} (h : ∀ t ∈ tokens, t ≠ .symbol ";") : .symbol ";" ∉ tokens :=
    fun hmem => h _ hmem rfl
  cases c with
  | add table cells =>
    have hnames : ∀ t ∈ commaSeparated (cells.map fun cell => [.word cell.1]), t ≠ .symbol ";" :=
      hlisted (by simp)
    have hvalues : ∀ t ∈ commaSeparated (cells.map fun cell => [literal cell.2]),
        t ≠ .symbol ";" := hlisted (by simp [hliteral])
    simp [tokens, hnone hnames, hnone hvalues]
  | overwrite table cells key =>
    have hassigned : ∀ t ∈ commaSeparated (cells.map fun cell =>
        [.word cell.1, .symbol "=", literal cell.2]), t ≠ .symbol ";" := hlisted (by simp [hliteral])
    simp [tokens, hnone hassigned, (hliteral _).symm]

theorem isSound_literalPart (c : Option String) : (literalPart c).IsSound := by
  cases c with
  | none => exact (by decide : (Part.word "NULL").IsSound)
  | some s => trivial

theorem isSound_parts {c : Command} (h : c.IsPlain) : ∀ p ∈ c.parts, p.IsSound := by
  have hwords : ∀ w ∈ ["INSERT", "OR", "IGNORE", "INTO", "VALUES", "UPDATE", "SET", "WHERE"],
      (Part.word w).IsSound := List.all_iff_forall_prop.mp (by decide)
  have hmarks : ∀ m ∈ ['(', ')', '='], (Part.mark m).IsSound :=
    List.all_iff_forall_prop.mp (by decide)
  have hcomma : (Part.mark ',').IsSound := by decide
  have hblank : Part.blank.IsSound := trivial
  have hlisted {cells : List (String × Option String)} {f : String × Option String → List Part}
      (h : ∀ cell ∈ cells, ∀ p ∈ f cell, p.IsSound) :
      ∀ p ∈ Part.listed (cells.map f), p.IsSound :=
    (forall_mem_intercalate (List.forall_mem_cons.mpr
      ⟨hcomma, List.forall_mem_singleton.mpr hblank⟩)).mpr (List.forall_mem_map.mpr h)
  simp only [List.forall_mem_cons] at hwords hmarks
  cases c with
  | add table cells =>
    obtain ⟨htable, -, hcells⟩ := h
    have htable : (Part.word table).IsSound := htable
    have hnames : ∀ p ∈ Part.listed (cells.map fun cell => [.word cell.1]), p.IsSound :=
      hlisted fun cell hcell => List.forall_mem_singleton.mpr (hcells cell hcell)
    have hvalues : ∀ p ∈ Part.listed (cells.map fun cell => [literalPart cell.2]), p.IsSound :=
      hlisted fun cell _ => List.forall_mem_singleton.mpr (isSound_literalPart cell.2)
    simp only [parts, List.forall_mem_append, List.forall_mem_cons]
    simpa [htable, hwords, hmarks, hblank] using ⟨hnames, hvalues⟩
  | overwrite table cells key =>
    obtain ⟨htable, -, hcells, hkey⟩ := h
    have htable : (Part.word table).IsSound := htable
    have hkey : (Part.word key.1).IsSound := hkey
    have hvalue := isSound_literalPart key.2
    have hassigned : ∀ p ∈ Part.listed (cells.map fun cell =>
        [.word cell.1, .mark '=', literalPart cell.2]), p.IsSound := by
      refine hlisted fun cell hcell => ?_
      have hname : (Part.word cell.1).IsSound := hcells cell hcell
      simp [hname, hmarks, isSound_literalPart]
    simp only [parts, List.forall_mem_append, List.forall_mem_cons]
    simpa [htable, hwords, hmarks, hblank, hkey, hvalue] using hassigned

theorem isItem_word (s : String) : Part.IsItem [.word s] := ⟨by simp, by simp, by simp⟩

theorem isItem_literalPart (c : Option String) : Part.IsItem [literalPart c] := by
  cases c <;> exact ⟨by simp, by simp [literalPart], by simp⟩

theorem isItem_assignment (s : String) (c : Option String) :
    Part.IsItem [.word s, .mark '=', literalPart c] := by
  cases c <;> exact ⟨by simp [Part.fits, literalPart], by simp [literalPart], by simp⟩

theorem isChain_parts {c : Command} (h : c.IsPlain) :
    c.parts.IsChain fun p q => Part.fits p q := by
  cases c with
  | add table cells =>
    obtain ⟨-, hne, -⟩ := h
    have hvalues := Part.isChain_listed (cells.map fun cell => [literalPart cell.2]) [.mark ')']
      (List.forall_mem_map.mpr fun cell _ => isItem_literalPart cell.2) (by simpa using hne)
      (by simp) (by simp [Part.isStop])
    have hmiddle := Part.isChain_front [.mark ')', .blank, .word "VALUES", .blank, .mark '(']
      (by simp [Part.fits]) (by simp) hvalues.1 hvalues.2
    have hnames := Part.isChain_listed (cells.map fun cell => [.word cell.1]) _
      (List.forall_mem_map.mpr fun cell _ => isItem_word cell.1) (by simpa using hne) hmiddle
      (by simp [Part.isStop])
    exact Part.isChain_front _ (by simp [Part.fits]) (by simp) hnames.1 hnames.2
  | overwrite table cells key =>
    obtain ⟨-, hne, -⟩ := h
    have hend : List.IsChain (fun p q => Part.fits p q)
        [.blank, .word "WHERE", .blank, .word key.1, .mark '=', literalPart key.2] := by
      cases key.2 <;> simp [Part.fits, literalPart]
    have hassigned := Part.isChain_listed
      (cells.map fun cell => [.word cell.1, .mark '=', literalPart cell.2]) _
      (List.forall_mem_map.mpr fun cell _ => isItem_assignment cell.1 cell.2) (by simpa using hne)
      hend (by simp [Part.isStop])
    exact Part.isChain_front _ (by simp [Part.fits]) (by simp) hassigned.1 hassigned.2

theorem getLast?_parts (c : Command) : c.parts.getLast? ≠ some (.mark '=') := by
  have hback {front back : List Part} {p : Part} (h : back.getLast? = some p) :
      (front ++ back).getLast? = some p := by
    rw [List.getLast?_append, h]
    rfl
  cases c with
  | add table cells =>
    have hlast : (add table cells).parts.getLast? = some (.mark ')') := by
      exact hback (hback (hback (hback rfl)))
    simp [hlast]
  | overwrite table cells key =>
    have hlast : (overwrite table cells key).parts.getLast? = some (literalPart key.2) := by
      exact hback (hback rfl)
    rw [hlast]
    cases key.2 <;> simp [literalPart]

-- A line with the statement and a semicolon has just the tokens of the statement.
theorem spells_parts {c : Command} (h : c.IsPlain) {line : String}
    (hline : line.toList = c.parts.flatMap Part.chars ++ [';']) :
    Script.Spells line (c.tokens ++ [.symbol ";"]) := by
  have hfirst : ∃ s, c.parts.head? = some (.word s) := by
    cases c with
    | add table cells => exact ⟨"INSERT", rfl⟩
    | overwrite table cells key => exact ⟨"UPDATE", rfl⟩
  rw [← tokens_parts]
  refine Script.spells_statement hline (isSound_parts h) (isChain_parts h) hfirst ?_
  rintro p hp rfl
  exact getLast?_parts c hp

end Command

-- A token that is written for a value.
theorem toList_token (v : Value) :
    (token v).toList = (Command.literalPart (content v)).chars := by
  cases v <;> simp [token, content, Command.literalPart, Part.chars, Text.Quoted.quoteText]

end TableForge.Patch
