import TableForge.Code.TableImplementation
import TableForge.Proofs.Code.Folding
import TableForge.Proofs.Table.Fields

namespace TableForge

namespace Code.TableImplementation

open StringLiteral

-- The text that a string literal behind the beginning of a line stands for, and the rest of the
-- line.
def readLiteral? (head line : String) : Option (List Char × List Char) := do
  let literal ← Text.dropHead? (head.toList ++ ['"']) line.toList
  readBody literal

theorem readLiteral_render (head s tail : String) :
    readLiteral? head (head ++ render s ++ tail) = some (foldLines none s.toList, tail.toList) := by
  have hline : (head ++ render s ++ tail).toList = (head.toList ++ ['"']) ++
      ((foldLines none s.toList).flatMap escapeChar ++ '"' :: tail.toList) := by
    simp [render, encode]
  simp only [readLiteral?, hline, Text.dropHead?_eq_some_iff.mpr rfl, Option.bind_eq_bind,
    Option.bind_some, readBody_escape (oneLine_foldLines _ _)]

def readText? (head line : String) : Option (List Char) := (readLiteral? head line).map (·.1)

theorem readText_render (head s tail : String) :
    readText? head (head ++ render s ++ tail) = some (foldLines none s.toList) := by
  rw [readText?, readLiteral_render, Option.map_some]

-- The texts in a list of string literals, one on each line.
theorem filterMap_commaSeparated (head : String) (texts : List String) :
    (commaSeparated (texts.map fun s => head ++ render s)).filterMap (readText? head) =
      texts.map fun s => foldLines none s.toList := by
  induction texts with
  | nil => rfl
  | cons s rest ih =>
    cases rest with
    | nil =>
      have hs := readText_render head s ""
      rw [String.append_empty] at hs
      simp only [List.map_cons, List.map_nil, commaSeparated]
      rw [List.filterMap_cons_some hs, List.filterMap_nil]
    | cons next rest =>
      simp only [List.map_cons, commaSeparated] at ih ⊢
      rw [List.filterMap_cons_some (readText_render head s ","), ih]

theorem filterMap_indexQueries (t : Table) :
    (indexQueries t).filterMap (readText? "        ") =
      t.indices.map fun i => foldLines none i.statement.toList := by
  have hopen : readText? "        " "    m_index_query_a = \x7b" = none := by decide
  have hclose : readText? "        " "    \x7d;" = none := by decide
  have h := filterMap_commaSeparated "        " (t.indices.map (·.statement))
  rw [List.map_map, List.map_map] at h
  rw [indexQueries, List.filterMap_append, List.filterMap_append, List.filterMap_cons_none hopen,
    List.filterMap_cons_none hclose, List.filterMap_nil, List.append_nil, List.nil_append]
  exact h

end Code.TableImplementation

namespace Table

open Code Code.TableImplementation Code.StringLiteral

-- The characters of the tokens of a statement.
def tokenTexts (statement : String) : List (List Char) :=
  (Script.lexemes statement).map (·.raw)

-- The part of a statement that is read: up to the first zero character.
def readPart (statement : String) : List Char := statement.toList.takeWhile (·.toNat ≠ 0)

theorem tokenTexts_foldLines (statement : String) :
    tokenTexts (String.ofList (foldLines none statement.toList)) =
      Script.spellings (foldLines none (readPart statement)) ++ [[]] := by
  have hword : ∀ c : Char, Text.isWordChar c = true → decide (c.toNat ≠ 0) = true := by
    intro c hc
    rw [decide_eq_true_iff]
    intro h
    obtain rfl : c = '\x00' := Char.ext (UInt32.toNat_inj.mp h)
    exact absurd hc (by decide +kernel)
  rw [tokenTexts, Script.raws_lexemes, String.toList_ofList,
    takeWhile_foldLines (by decide) (by decide) (by decide) hword, readPart]

-- A statement has the same tokens on one line if these are kept, and where no break parts the
-- marks of a comment only then.
theorem tokenTexts_eq_of_kept {statement : String} (h : Kept none (readPart statement)) :
    tokenTexts (String.ofList (foldLines none statement.toList)) = tokenTexts statement := by
  rw [tokenTexts_foldLines, spellings_foldLines h, tokenTexts, Script.raws_lexemes, readPart]

theorem kept_of_tokenTexts_eq {statement : String} (hp : WholeMarks (readPart statement))
    (htab : ['\x0b'] ∉ tokenTexts statement)
    (h : tokenTexts (String.ofList (foldLines none statement.toList)) = tokenTexts statement) :
    Kept none (readPart statement) := by
  rw [tokenTexts, Script.raws_lexemes] at htab
  rw [tokenTexts_foldLines, tokenTexts, Script.raws_lexemes] at h
  exact kept_of_spellings hp (fun hmem => htab (List.mem_append_left _ hmem))
    (List.append_cancel_right h)

-- The statements of the guarded indices are those of the indices, in order.
theorem guardIndices_eq_ok {indices : List Index} {guarded : List GuardedIndex}
    (h : guardIndices indices = .ok guarded) :
    indices.mapM Index.createIfMissing = .ok (guarded.map (·.statement)) := by
  unfold guardIndices at h
  induction indices generalizing guarded with
  | nil =>
    obtain rfl := Except.ok.inj h
    rfl
  | cons index rest ih =>
    rw [List.mapM_cons] at h ⊢
    obtain ⟨first, hfirst, h⟩ := ok_of_bind h
    obtain ⟨more, hmore, h⟩ := ok_of_bind h
    obtain ⟨statement, hstatement, hfirst⟩ := ok_of_bind hfirst
    obtain rfl := Except.ok.inj hfirst
    obtain rfl := Except.ok.inj h
    rw [hstatement, ih hmore]
    rfl

-- The generated code has one string literal for the definition of the table and one for each
-- index. Each of them stands for its statement on one line, which has the same tokens if they are
-- kept, and if no break parts the marks of a comment only then.
theorem embedded_tokens_iff {name definition : String} {fields : List (Field × Bool)}
    {indices : List Index} {rows : List Row} {t : Table}
    (h : assemble name definition fields indices rows = .ok t) :
    ∃ statements, indices.mapM Index.createIfMissing = .ok statements ∧
      (∃ line ∈ tableConstructor t, readLiteral? "    m_create_query = " line =
        some (foldLines none definition.toList, [';'])) ∧
      indexQueries t <:+: tableConstructor t ∧
      (indexQueries t).filterMap (readText? "        ") =
        statements.map (fun s => foldLines none s.toList) ∧
      ∀ s ∈ definition :: statements,
        (Kept none (readPart s) →
          tokenTexts (String.ofList (foldLines none s.toList)) = tokenTexts s) ∧
        (WholeMarks (readPart s) → ['\x0b'] ∉ tokenTexts s →
          tokenTexts (String.ofList (foldLines none s.toList)) = tokenTexts s →
          Kept none (readPart s)) := by
  obtain ⟨-, hdefinition, -, -, hindices⟩ := assemble_eq_ok h
  refine ⟨t.indices.map (·.statement), guardIndices_eq_ok hindices, ?_, ?_, ?_, ?_⟩
  · refine ⟨queryMember "m_create_query" t.create, ?_, ?_⟩
    · simp [tableConstructor, block]
    · have hline : queryMember "m_create_query" t.create =
          "    m_create_query = " ++ render definition ++ ";" := by
        have hhead : "    " ++ "m_create_query" ++ " = " = "    m_create_query = " := by decide
        rw [queryMember, create, hdefinition, hhead]
        rfl
      rw [hline, readLiteral_render]
      rfl
  · refine List.infix_append_of_infix_left (List.infix_append_of_infix_right ?_)
    exact List.infix_append _ _ _
  · rw [filterMap_indexQueries, List.map_map]
    rfl
  · intro s _
    exact ⟨tokenTexts_eq_of_kept, kept_of_tokenTexts_eq⟩

-- A comment that ends with its line takes in the next line.
theorem embedded_tokens_of_comment :
    let definition := "CREATE TABLE T(ID INTEGER PRIMARY KEY, -- key\nA TEXT)"
    let folded := "CREATE TABLE T(ID INTEGER PRIMARY KEY, -- key A TEXT)"
    ∃ t, assemble "T" definition
        [(⟨0, "ID", .integer, false⟩, true), (⟨1, "A", .text, true⟩, false)] [] [] = .ok t ∧
      (∃ line ∈ tableConstructor t,
        readLiteral? "    m_create_query = " line = some (folded.toList, [';'])) ∧
      tokenTexts folded ≠ tokenTexts definition ∧ ¬ Kept none (readPart definition) := by
  intro definition folded
  have hfold : foldLines none definition.toList = folded.toList := by decide +kernel
  have hne : tokenTexts folded ≠ tokenTexts definition := by decide +kernel
  obtain ⟨t, ht⟩ : ∃ t, assemble "T" definition
      [(⟨0, "ID", .integer, false⟩, true), (⟨1, "A", .text, true⟩, false)] [] [] = .ok t :=
    ⟨_, rfl⟩
  refine ⟨t, ht, ?_⟩
  obtain ⟨statements, -, hline, -, -, hkept⟩ := embedded_tokens_iff ht
  rw [hfold] at hline
  refine ⟨hline, hne, fun h => ?_⟩
  have hsame := (hkept definition (by simp)).1 h
  rw [hfold, String.ofList_toList] at hsame
  exact hne hsame

end Table

end TableForge
