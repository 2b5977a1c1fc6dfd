import TableForge.Code.StringLiteral

namespace TableForge.Code.StringLiteral

-- The text is on one line.
def OneLine (s : List Char) : Prop := ∀ c ∈ s, c ≠ '\n' ∧ c ≠ '\r'

instance (s : List Char) : Decidable (OneLine s) :=
  List.decidableBAll (fun c => c ≠ '\n' ∧ c ≠ '\r') s

theorem oneLine_cons {c : Char} {s : List Char} :
    OneLine (c :: s) ↔ (c ≠ '\n' ∧ c ≠ '\r') ∧ OneLine s := by
  simp [OneLine]

theorem oneLine_append {s t : List Char} : OneLine (s ++ t) ↔ OneLine s ∧ OneLine t := by
  simp only [OneLine, List.mem_append]
  exact ⟨fun h => ⟨fun c hc => h c (.inl hc), fun c hc => h c (.inr hc)⟩,
    fun h c hc => hc.elim (h.1 c) (h.2 c)⟩

theorem oneLine_foldLines (last : Option Char) (s : List Char) : OneLine (foldLines last s) := by
  induction s generalizing last with
  | nil => simp [OneLine, foldLines]
  | cons c rest ih =>
    simp only [foldLines]
    split
    · exact ih last
    split
    · split
      · exact oneLine_cons.mpr ⟨by decide, ih _⟩
      · exact ih last
    · rename_i hr hn
      exact oneLine_cons.mpr ⟨⟨hn, hr⟩, ih _⟩

theorem foldLines_eq_self {s : List Char} (last : Option Char) (h : OneLine s) :
    foldLines last s = s := by
  induction s generalizing last with
  | nil => rfl
  | cons c rest ih =>
    obtain ⟨⟨hn, hr⟩, hrest⟩ := oneLine_cons.mp h
    simp only [foldLines, if_neg hr, if_neg hn, ih _ hrest]

theorem foldLines_eq_self_iff {s : List Char} (last : Option Char) :
    foldLines last s = s ↔ OneLine s :=
  ⟨fun h => h ▸ oneLine_foldLines last s, foldLines_eq_self last⟩

theorem oneLine_flatMap_escapeChar {s : List Char} (h : OneLine s) :
    OneLine (s.flatMap escapeChar) := by
  intro c hc
  obtain ⟨d, hd, hc⟩ := List.mem_flatMap.mp hc
  rw [escapeChar] at hc
  split at hc
  · exact (by decide : OneLine ['\\', '"']) c hc
  split at hc
  · exact (by decide : OneLine ['\\', '\\']) c hc
  split at hc
  · exact (by decide : OneLine ['\\', 't']) c hc
  · rw [List.mem_singleton] at hc
    exact hc ▸ h d hd

-- A string literal stands on one line, whatever its text is.
theorem oneLine_render (s : String) : OneLine (render s).toList := by
  rw [render, String.toList_ofList, encode, List.cons_append, oneLine_cons, oneLine_append]
  exact ⟨by decide, oneLine_flatMap_escapeChar (oneLine_foldLines none _), by decide⟩

-- Reading undoes the escapes up to the closing quote.
theorem readBody_escape {s : List Char} (h : OneLine s) (rest : List Char) :
    readBody (s.flatMap escapeChar ++ '"' :: rest) = some (s, rest) := by
  induction s with
  | nil => simp [readBody]
  | cons c s ih =>
    obtain ⟨⟨hn, hr⟩, hs⟩ := oneLine_cons.mp h
    have ih := ih hs
    simp only [List.flatMap_cons, List.append_assoc]
    by_cases hquote : c = '"'
    · subst c
      simp [escapeChar, readBody, ih]
    by_cases hslash : c = '\\'
    · subst c
      simp [escapeChar, readBody, ih]
    by_cases htab : c = '\t'
    · subst c
      simp [escapeChar, readBody, ih]
    simp [escapeChar, readBody, hquote, hslash, htab, hn, hr, ih]

-- A string literal stands for its text brought onto one line.
theorem decode_encode (s : List Char) : decode? (encode s) = some (foldLines none s) := by
  simp only [decode?, encode, List.cons_append, readBody_escape (oneLine_foldLines none s)]

theorem decode_render (s : String) :
    decode? (render s).toList = some (foldLines none s.toList) := by
  rw [render, String.toList_ofList, decode_encode]

end TableForge.Code.StringLiteral
