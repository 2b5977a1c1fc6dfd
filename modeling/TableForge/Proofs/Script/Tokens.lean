import TableForge.Proofs.Script.Lexing
import TableForge.Proofs.Text.Quoted
import Mathlib.Data.Bool.AllAny

namespace TableForge.Script

open Token

-- The tokens of a text, to its end.
def tokensOf (s : List Char) : List Token := (spellings s).map Token.ofRaw

-- The text is a word of a script wherever it stands, so that it needs no quotes as a name.
def IsName (s : String) : Prop :=
  s.toList.head?.any (fun c => isWordStart c && !isSpace c) ∧ s.toList.all isNameChar

instance (s : String) : Decidable (IsName s) := inferInstanceAs (Decidable (_ ∧ _))

theorem tokensOf_skip {a rest : List Char} (ha : a ≠ [])
    (h : skipLength (a ++ rest) = a.length) : tokensOf (a ++ rest) = tokensOf rest := by
  rw [tokensOf, spellings_skip ha h, tokensOf]

theorem tokensOf_token {raw rest : List Char} (hraw : raw ≠ [])
    (hs : skipLength (raw ++ rest) = 0) (hl : Token.length (raw ++ rest) = raw.length) :
    tokensOf (raw ++ rest) = Token.ofRaw raw :: tokensOf rest := by
  rw [tokensOf, spellings_token hraw hs hl, List.map_cons, tokensOf]

-- White space of one character in front of something else.
theorem tokensOf_space {c : Char} {rest : List Char} (hc : isSpace c)
    (hrest : ∀ d ∈ rest.head?, continuesSpace d = false) :
    tokensOf (c :: rest) = tokensOf rest := by
  have hstop : rest.takeWhile continuesSpace = [] := by
    cases rest with
    | nil => rfl
    | cons d rest => simp [hrest d rfl]
  have hskip : skipLength ([c] ++ rest) = [c].length := by
    rw [List.singleton_append, skipLength_space hc, hstop]
    rfl
  exact tokensOf_skip (List.cons_ne_nil c []) hskip

-- A comment that its line ends.
theorem tokensOf_comment {s : List Char} (hs : '\n' ∉ s) (rest : List Char) :
    tokensOf ('-' :: '-' :: s ++ '\n' :: rest) = tokensOf ('\n' :: rest) := by
  have hall : ∀ c ∈ s, decide (c ≠ '\n') = true := by
    intro c hc
    exact decide_eq_true fun h => hs (h ▸ hc)
  have hskip : skipLength ('-' :: '-' :: s ++ '\n' :: rest) = ('-' :: '-' :: s).length := by
    rw [List.cons_append, List.cons_append, skipLength, List.takeWhile_append_of_pos hall]
    simp
  exact tokensOf_skip (by simp) hskip

section Word

variable {c : Char} {s rest : List Char}

-- A word begins with none of the characters that begin something else.
theorem ne_of_isWordStart (h : isWordStart c) {d : Char} (hd : isWordStart d = false) : c ≠ d := by
  rintro rfl
  rw [h] at hd
  cases hd

-- Letters, the underscore and what is not ASCII come behind the digits.
theorem isDigit_of_isWordStart (h : isWordStart c) : c.isDigit = false := by
  have hupper (h : c.isUpper) : 65 ≤ c.toNat := (of_decide_eq_true h).1
  have hlower (h : c.isLower) : 97 ≤ c.toNat := of_decide_eq_true (Bool.and_eq_true_iff.mp h).1
  have hletter (h : c.isAlpha) : 65 ≤ c.toNat := by
    rcases Bool.or_eq_true_iff.mp h with h | h
    · exact hupper h
    · exact Nat.le_trans (by decide) (hlower h)
  have hbehind : 58 ≤ c.toNat := by
    rw [isWordStart, Bool.or_eq_true, Bool.or_eq_true, decide_eq_true_eq, decide_eq_true_eq] at h
    obtain (h | rfl) | h := h
    · exact Nat.le_trans (by decide) (hletter h)
    · decide
    · exact Nat.le_trans (by decide) h
  by_contra hd
  have hrange : 48 ≤ c.toNat ∧ c.toNat ≤ 57 := by
    simpa [Char.isDigit, UInt32.le_iff_toNat_le] using hd
  omega

theorem startsNumber_of_isWordStart (h : isWordStart c) (s : List Char) :
    startsNumber (c :: s) = false := by
  have hdot : c ≠ '.' := ne_of_isWordStart h (by decide)
  have hdigit := isDigit_of_isWordStart h
  unfold startsNumber
  split <;> simp_all

theorem isMark_of_isWordStart (h : isWordStart c) : isMark c = false := by
  have hne {d : Char} (hd : isWordStart d = false) : c ≠ d := ne_of_isWordStart h hd
  simp [isMark, hne (d := '$') (by decide), hne (d := '@') (by decide),
    hne (d := '#') (by decide), hne (d := ':') (by decide)]

theorem skipLength_of_isWordStart (h : isWordStart c) (hspace : isSpace c = false) :
    skipLength (c :: s) = 0 := by
  have hminus : c ≠ '-' := ne_of_isWordStart h (by decide)
  have hslash : c ≠ '/' := ne_of_isWordStart h (by decide)
  unfold skipLength
  split <;> simp_all

-- A word goes as far as its characters do. Only the letter of a blob can have a quote behind it.
theorem length_of_isWordStart (h : isWordStart c) (hquote : s.head? ≠ some '\'') :
    Token.length (c :: s) = (s.takeWhile isNameChar).length + 1 := by
  have hne {d : Char} (hd : isWordStart d = false) : c ≠ d := ne_of_isWordStart h hd
  simp [Token.length, hne (d := '\'') (by decide), hne (d := '"') (by decide),
    hne (d := '\x60') (by decide), hne (d := '[') (by decide), hne (d := '?') (by decide),
    isMark_of_isWordStart h, startsNumber_of_isWordStart h, hquote, h]

theorem ofRaw_of_isWordStart (h : isWordStart c) (hquote : s.head? ≠ some '\'') :
    Token.ofRaw (c :: s) = .word (String.ofList (c :: s)) := by
  have hne {d : Char} (hd : isWordStart d = false) : c ≠ d := ne_of_isWordStart h hd
  simp [Token.ofRaw, hne (d := '\'') (by decide), hne (d := '"') (by decide),
    hne (d := '\x60') (by decide), hne (d := '[') (by decide), hne (d := '?') (by decide),
    isMark_of_isWordStart h, startsNumber_of_isWordStart h, hquote, h]

end Word

theorem IsName.exists_cons {s : String} (h : IsName s) :
    ∃ c rest, s.toList = c :: rest ∧ isWordStart c ∧ isSpace c = false ∧
      ∀ d ∈ rest, isNameChar d = true := by
  obtain ⟨hfirst, hall⟩ := h
  cases hs : s.toList with
  | nil => simp [hs] at hfirst
  | cons c rest =>
    rw [hs] at hfirst hall
    obtain ⟨hstart, hspace⟩ : isWordStart c = true ∧ isSpace c = false := by simpa using hfirst
    exact ⟨c, rest, rfl, hstart, hspace, (List.forall_mem_cons.mp (List.all_eq_true.mp hall)).2⟩

theorem tokensOf_word {s : String} (hs : IsName s) {rest : List Char}
    (hrest : ∀ c ∈ rest.head?, isNameChar c = false ∧ c ≠ '\'') :
    tokensOf (s.toList ++ rest) = .word s :: tokensOf rest := by
  obtain ⟨c, more, hchars, hstart, hspace, hall⟩ := hs.exists_cons
  have hquote {after : List Char} (hafter : after.head? ≠ some '\'') :
      (more ++ after).head? ≠ some '\'' := by
    cases more with
    | nil => exact hafter
    | cons d more =>
      intro heq
      obtain rfl := Option.some.inj heq
      exact absurd (hall '\'' List.mem_cons_self) (by decide)
  have hend : rest.head? ≠ some '\'' := fun heq => (hrest '\'' heq).2 rfl
  have hstop : rest.takeWhile isNameChar = [] := by
    cases rest with
    | nil => rfl
    | cons d rest => simp [(hrest d rfl).1]
  have hlength : Token.length (s.toList ++ rest) = s.toList.length := by
    rw [hchars, List.cons_append, length_of_isWordStart hstart (hquote hend),
      List.takeWhile_append_of_pos hall, hstop, List.append_nil, List.length_cons]
  have hskip : skipLength (s.toList ++ rest) = 0 := by
    rw [hchars, List.cons_append, skipLength_of_isWordStart hstart hspace]
  have hraw : Token.ofRaw s.toList = .word s := by
    have hmore : (more ++ []).head? ≠ some '\'' := hquote (by simp)
    rw [List.append_nil] at hmore
    rw [hchars, ofRaw_of_isWordStart hstart hmore, ← hchars, String.ofList_toList]
  rw [tokensOf_token (by simp [hchars]) hskip hlength, hraw]

-- The symbols that need no more than a look at the next character.
def marks : List Char := ['(', ')', ',', ';', '=']

theorem tokensOf_mark {c : Char} (hc : c ∈ marks) {rest : List Char}
    (hrest : c = '=' → rest.head? ≠ some '=') :
    tokensOf (c :: rest) = .symbol (String.singleton c) :: tokensOf rest := by
  have hraw : ∀ d ∈ marks, Token.ofRaw [d] = .symbol (String.singleton d) :=
    List.all_iff_forall_prop.mp (by decide)
  have hcases : (c = '(' ∨ c = ')' ∨ c = ',' ∨ c = ';') ∨ c = '=' := by
    simpa [marks, or_assoc] using hc
  have hskip : skipLength ([c] ++ rest) = 0 := by
    obtain (rfl | rfl | rfl | rfl) | rfl := hcases <;> simp [skipLength, isSpace]
  have hlength : Token.length ([c] ++ rest) = [c].length := by
    obtain hc | rfl := hcases
    · obtain rfl | rfl | rfl | rfl := hc <;>
        simp [Token.length, isMark, startsNumber, isWordStart, symbolLength, longSymbols]
    · have hnext := hrest rfl
      cases rest with
      | nil => decide
      | cons d rest =>
        have hd : '=' ≠ d := fun heq => hnext (heq ▸ rfl)
        simp [Token.length, isMark, startsNumber, isWordStart, symbolLength, longSymbols, hd]
  rw [← List.singleton_append, tokensOf_token (List.cons_ne_nil c []) hskip hlength, hraw c hc]

section Text

open Text.Quoted

theorem quotedLength_double {s rest : List Char} (h : rest.head? ≠ some '\'') :
    quotedLength '\'' (Text.double '\'' s ++ '\'' :: rest) = (Text.double '\'' s).length + 1 := by
  induction s with
  | nil =>
    cases rest with
    | nil => rfl
    | cons d rest =>
      have hd : d ≠ '\'' := by simpa using h
      simp [quotedLength, hd]
  | cons c s ih =>
    by_cases hc : c = '\''
    · subst c
      simp [Text.double_cons_self, quotedLength, ih]
    · rw [Text.double_cons_of_ne hc]
      cases hs : Text.double '\'' s ++ '\'' :: rest with
      | nil => simp at hs
      | cons d more =>
        rw [hs] at ih
        simp [quotedLength, hc, hs, ih]

theorem content_double (s : List Char) :
    content? '\'' (Text.double '\'' s ++ ['\'']) = some s := by
  induction s with
  | nil => rfl
  | cons c s ih =>
    by_cases hc : c = '\''
    · subst c
      simp [Text.double_cons_self, content?, ih]
    · rw [Text.double_cons_of_ne hc]
      cases hs : Text.double '\'' s ++ ['\''] with
      | nil => simp at hs
      | cons d more =>
        rw [hs] at ih
        simp [content?, hc, hs, ih]

theorem tokensOf_quote (s : String) {rest : List Char} (hrest : rest.head? ≠ some '\'') :
    tokensOf (quote s.toList ++ rest) = .text s :: tokensOf rest := by
  have hlength : Token.length (quote s.toList ++ rest) = (quote s.toList).length := by
    simp [quote, Token.length, quotedLength_double hrest]
  have hskip : skipLength (quote s.toList ++ rest) = 0 := by
    simp [quote, skipLength, isSpace]
  have hraw : Token.ofRaw (quote s.toList) = .text s := by
    simp [quote, Token.ofRaw, content_double]
  rw [tokensOf_token (by simp [quote]) hskip hlength, hraw]

end Text

end TableForge.Script
