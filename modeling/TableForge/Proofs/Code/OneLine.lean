import TableForge.Proofs.Code.StringLiteral
import TableForge.Proofs.Text.Run

-- A text as a string literal on one line: what the literal has between its quotes, what it
-- stands for, and which words are left of the text.
namespace TableForge.Code.StringLiteral

def escapes : List (List Char) := [['\\', '"'], ['\\', '\\'], ['\\', 't']]

-- A literal stands between two quotes. Behind the first one come escapes and characters that
-- may stand there as they are.
def IsLiteral (s : List Char) : Prop :=
  ∃ parts : List (List Char), s = '"' :: parts.flatten ++ ['"'] ∧
    ∀ part ∈ parts, part ∈ escapes ∨ ∃ c, part = [c] ∧ c ∉ ['"', '\\', '\n', '\r', '\t']

theorem escapeChar_mem (c : Char) : escapeChar c ∈ escapes ∨
    escapeChar c = [c] ∧ c ≠ '"' ∧ c ≠ '\\' ∧ c ≠ '\t' := by
  unfold escapeChar
  split
  · exact .inl (by decide)
  split
  · exact .inl (by decide)
  split
  · exact .inl (by decide)
  · rename_i hquote hslash htab
    exact .inr ⟨rfl, hquote, hslash, htab⟩

theorem isLiteral_encode (s : List Char) : IsLiteral (encode s) := by
  refine ⟨(foldLines none s).map escapeChar, by rw [encode, List.flatMap_def], ?_⟩
  intro part hpart
  obtain ⟨c, hc, rfl⟩ := List.mem_map.mp hpart
  obtain ⟨hfeed, hreturn⟩ := oneLine_foldLines none s c hc
  rcases escapeChar_mem c with hescape | ⟨hself, hquote, hslash, htab⟩
  · exact .inl hescape
  · exact .inr ⟨c, hself, by simp [hquote, hslash, hfeed, hreturn, htab]⟩

-- What one character of a text puts behind the characters kept before it.
def piece (front : List Char) (c : Char) (next : Option Char) : List Char :=
  if c = '\r' then []
  else if c = '\n' then
    if front.getLast?.any Text.isWordChar && next.any Text.isWordChar then [' '] else []
  else [c]

-- What is kept of the first `n` characters of a text.
def kept (s : List Char) : Nat → List Char
  | 0 => []
  | n + 1 =>
    match s[n]? with
    | some c => kept s n ++ piece (kept s n) c s[n + 1]?
    | none => kept s n

-- The character remembered while lines are folded is the last one kept.
theorem append_foldLines_cons (front : List Char) (c : Char) (rest : List Char) :
    front ++ foldLines front.getLast? (c :: rest) =
      front ++ piece front c rest.head? ++
        foldLines (front ++ piece front c rest.head?).getLast? rest := by
  simp only [foldLines, piece]
  split
  · simp
  split
  · split
    · simp
    · simp
  · simp

theorem kept_foldLines (before rest : List Char) :
    kept (before ++ rest) before.length ++
        foldLines (kept (before ++ rest) before.length).getLast? rest =
      kept (before ++ rest) (before ++ rest).length := by
  induction rest generalizing before with
  | nil => simp [foldLines]
  | cons c rest ih =>
    have hstep : kept (before ++ c :: rest) (before.length + 1) =
        kept (before ++ c :: rest) before.length ++
          piece (kept (before ++ c :: rest) before.length) c rest.head? := by
      have hnext : (before ++ c :: rest)[before.length + 1]? = rest.head? := by
        simp [List.getElem?_append_right, List.head?_eq_getElem?]
      simp [kept, hnext]
    have ih := ih (before ++ [c])
    rw [List.append_assoc, List.singleton_append, List.length_append, List.length_singleton] at ih
    rw [append_foldLines_cons, ← hstep, ih]

theorem foldLines_eq_kept (s : List Char) : foldLines none s = kept s s.length :=
  kept_foldLines [] s

-- Every carriage return has a line feed right behind it.
def PairedReturns (s : List Char) : Prop :=
  ∀ front back, s = front ++ '\r' :: back → back.head? = some '\n'

@[simp] theorem pairedReturns_nil : PairedReturns [] := by
  simp [PairedReturns]

@[simp] theorem pairedReturns_cons {c : Char} {s : List Char} :
    PairedReturns (c :: s) ↔ (c = '\r' → s.head? = some '\n') ∧ PairedReturns s := by
  constructor
  · intro h
    refine ⟨fun hc => h [] s (by rw [hc, List.nil_append]), fun front back hs => ?_⟩
    exact h (c :: front) back (by rw [hs, List.cons_append])
  · rintro ⟨hc, hs⟩ front back h
    rcases List.cons_eq_append_iff.mp h with ⟨-, hback⟩ | ⟨front, -, hback⟩
    · obtain ⟨rfl, rfl⟩ := List.cons.inj hback
      exact hc rfl
    · exact hs front back hback

-- Line ends and the blank are in no word.
theorem isWordChar_eq_false {c : Char} (h : c ∈ ['\r', '\n', ' ']) : Text.isWordChar c = false := by
  have hall : ['\r', '\n', ' '].all (!Text.isWordChar ·) := by decide +kernel
  simpa using List.all_eq_true.mp hall c h

-- The place of a character that is left out or becomes a blank is the end of a word, or no
-- word is on one of its sides.
theorem runs_piece (front : List Char) {c : Char} {rest : List Char}
    (h : c = '\r' → rest.head? = some '\n') :
    Text.runs Text.isWordChar (front ++ piece front c rest.head? ++ rest) =
      Text.runs Text.isWordChar (front ++ c :: rest) := by
  unfold piece
  split
  case isTrue hreturn =>
    obtain ⟨rest, rfl⟩ := List.head?_eq_some_iff.mp (h hreturn)
    subst c
    have hr := isWordChar_eq_false (c := '\r') (by decide)
    have hn := isWordChar_eq_false (c := '\n') (by decide)
    rw [List.append_nil, Text.runs_append_cons hn, Text.runs_append_cons hr,
      Text.runs_cons_of_neg hn]
  split
  case isTrue hfeed =>
    subst c
    rw [Text.runs_append_cons (isWordChar_eq_false (by decide))]
    split
    · rw [List.append_assoc, List.singleton_append,
        Text.runs_append_cons (isWordChar_eq_false (by decide))]
    · rename_i hsides
      rw [List.append_nil, Text.runs_append (by simpa using hsides)]
  case isFalse => rw [List.append_assoc, List.singleton_append]

-- Folding lines neither joins nor splits words, whatever has been kept so far.
theorem runs_foldLines {s : List Char} (front : List Char) (h : PairedReturns s) :
    Text.runs Text.isWordChar (front ++ foldLines front.getLast? s) =
      Text.runs Text.isWordChar (front ++ s) := by
  induction s generalizing front with
  | nil => rfl
  | cons c rest ih =>
    obtain ⟨hnext, hrest⟩ := pairedReturns_cons.mp h
    rw [append_foldLines_cons, ih _ hrest, runs_piece front hnext]

-- The literal of any text is well formed and stands for what is kept of the text. That is the
-- whole text when it is on one line, and a text with the same words when no carriage return
-- stands alone.
theorem render_one_line (s : String) :
    IsLiteral (render s).toList ∧
    decode? (render s).toList = some (kept s.toList s.toList.length) ∧
    (OneLine s.toList → decode? (render s).toList = some s.toList) ∧
    (PairedReturns s.toList → ∃ line, decode? (render s).toList = some line ∧
      Text.runs Text.isWordChar line = Text.runs Text.isWordChar s.toList) := by
  have hdecode := decode_render s
  refine ⟨?_, ?_, ?_, ?_⟩
  · rw [render, String.toList_ofList]
    exact isLiteral_encode s.toList
  · rw [hdecode, foldLines_eq_kept]
  · intro hline
    rw [hdecode, foldLines_eq_self none hline]
  · intro hpaired
    exact ⟨_, hdecode, runs_foldLines [] hpaired⟩

-- A text on one line with quotes and a tab, and one with breaks between words, behind a blank
-- and behind one another.
theorem render_one_line_of_breaks :
    decode? (render "a \"b\\c\"\td").toList = some "a \"b\\c\"\td".toList ∧
    ∃ line, decode? (render "one\r\ntwo \nthree\r\n\r\n").toList = some line ∧
      Text.runs Text.isWordChar line = ["one".toList, "two".toList, "three".toList] := by
  refine ⟨(render_one_line "a \"b\\c\"\td").2.2.1 (by decide), ?_⟩
  obtain ⟨line, hline, hwords⟩ :=
    (render_one_line "one\r\ntwo \nthree\r\n\r\n").2.2.2 (by simp)
  exact ⟨line, hline, hwords.trans (by decide +kernel)⟩

end TableForge.Code.StringLiteral
