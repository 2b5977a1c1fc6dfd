import TableForge.Index
import TableForge.Proofs.Text.Run
import Mathlib.Data.List.Basic

-- The statement that creates an index unless it exists, and the definition it is made from.
namespace TableForge.Index

-- The keyword INDEX is one of the first three words of the definition.
def HasKeyword (index : Index) : Prop :=
  ∃ word ∈ (Text.words index.definition.toList).take 3, isKeyword word

instance (index : Index) : Decidable index.HasKeyword :=
  inferInstanceAs (Decidable (∃ word ∈ _, isKeyword word = true))

-- A text in two parts: the first one ends with the keyword, in front of which there are less than
-- `n` words that are not the keyword, and the second one goes on with white space, if at all.
structure CutBehindKeyword (n : Nat) (s before after : List Char) : Prop where
  whole : s = before ++ after
  keyword : ∃ earlier word, Text.words before = earlier ++ [word] ∧ earlier.length < n ∧
    (∀ w ∈ earlier, isKeyword w = false) ∧ isKeyword word
  ends : before.getLast?.any Text.isBlank = false
  apart : after.head?.any (!Text.isBlank ·) = false

namespace CutBehindKeyword

variable {n : Nat} {s before after before' after' : List Char}

theorem words_eq (h : CutBehindKeyword n s before after) :
    Text.words s = Text.words before ++ Text.words after := by
  rw [h.whole]
  exact Text.runs_append (by simp [h.apart])

-- The words of a longer first part have the keyword of a shorter one among them, but not at their
-- end.
theorem eq_of_front (h : CutBehindKeyword n s before after)
    (h' : CutBehindKeyword n s before' after') (hbegins : before <+: before') :
    before = before' := by
  obtain ⟨more, rfl⟩ := hbegins
  by_cases hmore : more = []
  · rw [hmore, List.append_nil]
  exfalso
  have hafter : after = more ++ after' := by
    have hwhole := h.whole.symm.trans h'.whole
    rwa [List.append_assoc, List.append_cancel_left_eq] at hwhole
  have hwords : Text.words (before ++ more) = Text.words before ++ Text.words more := by
    have hnext : more.head?.any (!Text.isBlank ·) = false := by
      have happart := h.apart
      rwa [hafter, List.head?_append_of_ne_nil more hmore] at happart
    exact Text.runs_append (by simp [hnext])
  have hlater : Text.words more ≠ [] := by
    have hlast : Text.isBlank (more.getLast hmore) = false := by
      have hends := h'.ends
      rwa [List.getLast?_append_of_ne_nil before hmore, List.getLast?_eq_some_getLast hmore]
        at hends
    exact Text.runs_ne_nil_of_mem (List.getLast_mem hmore) (by simp [hlast])
  obtain ⟨earlier, word, hbefore, -, -, hword⟩ := h.keyword
  obtain ⟨earlier', word', hbefore', -, hother, -⟩ := h'.keyword
  obtain ⟨front, last, hfront⟩ := List.eq_nil_or_concat' (Text.words more) |>.resolve_left hlater
  have hearlier : earlier' = earlier ++ word :: front := by
    rw [hwords, hbefore, hfront] at hbefore'
    have hparts : (earlier ++ word :: front) ++ [last] = earlier' ++ [word'] := by
      simpa using hbefore'
    exact (List.append_inj_left' hparts rfl).symm
  rw [hother word (by simp [hearlier])] at hword
  cases hword

theorem unique (h : CutBehindKeyword n s before after)
    (h' : CutBehindKeyword n s before' after') : before = before' ∧ after = after' := by
  have hwhole : before ++ after = before' ++ after' := h.whole.symm.trans h'.whole
  have hsame : before = before' := by
    rcases List.prefix_or_prefix_of_prefix (List.prefix_append before after)
      (hwhole ▸ List.prefix_append before' after') with hbegins | hbegins
    · exact h.eq_of_front h' hbegins
    · exact (h'.eq_of_front h hbegins).symm
  exact ⟨hsame, List.append_cancel_left (hsame ▸ hwhole)⟩

end CutBehindKeyword

-- The first word of a text, with the white space in front of it and the text behind it. A blank
-- text has an empty one.
structure FirstWord (s blanks word rest : List Char) : Prop where
  whole : s = blanks ++ word ++ rest
  blank : ∀ c ∈ blanks, Text.isBlank c = true
  visible : ∀ c ∈ word, Text.isBlank c = false
  apart : rest.head?.any (!Text.isBlank ·) = false
  last : word = [] → rest = []

namespace FirstWord

variable {s blanks word rest : List Char}

theorem words_front (h : FirstWord s blanks word rest) :
    Text.words (blanks ++ word) = if word = [] then [] else [word] := by
  have hblank : ∀ c ∈ blanks, (!Text.isBlank c) = false := by simpa using h.blank
  have hnone : Text.words blanks = [] := Text.runs_eq_nil hblank
  have hlast : blanks.getLast?.any (!Text.isBlank ·) = false := by
    cases hc : blanks.getLast? with
    | none => rfl
    | some c => exact hblank c (List.mem_of_getLast? hc)
  have happend : Text.words (blanks ++ word) = Text.words blanks ++ Text.words word :=
    Text.runs_append (by simp [hlast])
  rw [happend, hnone, List.nil_append]
  split
  · rename_i hword
    rw [hword]
    rfl
  · rename_i hword
    exact Text.runs_eq_singleton hword (by simpa using h.visible)

theorem words_eq (h : FirstWord s blanks word rest) :
    Text.words s = (if word = [] then [] else [word]) ++ Text.words rest := by
  rw [h.whole, ← h.words_front]
  exact Text.runs_append (by simp [h.apart])

end FirstWord

-- What the search does with the first word of a text.
theorem exists_firstWord (s : List Char) :
    ∃ blanks word rest, FirstWord s blanks word rest ∧ ∀ n,
      cutAtKeyword? (n + 1) s =
        if isKeyword word then some (blanks ++ word, rest)
        else (cutAtKeyword? n rest).map fun (before, after) =>
          (blanks ++ word ++ before, after) := by
  have hblank : ∀ c ∈ s.takeWhile Text.isBlank, Text.isBlank c = true :=
    List.all_eq_true.mp List.all_takeWhile
  have hvisible : ∀ c ∈ (s.dropWhile Text.isBlank).takeWhile (!Text.isBlank ·),
      (!Text.isBlank c) = true :=
    List.all_eq_true.mp List.all_takeWhile
  refine ⟨_, _, _, ⟨?_, hblank, by simpa using hvisible, ?_, fun hword => ?_⟩, fun n => rfl⟩
  · rw [List.append_assoc, List.takeWhile_append_dropWhile, List.takeWhile_append_dropWhile]
  · have hhead := List.head?_dropWhile_not (!Text.isBlank ·) (s.dropWhile Text.isBlank)
    revert hhead
    cases ((s.dropWhile Text.isBlank).dropWhile (!Text.isBlank ·)).head? <;> simp
  · have hhead := List.head?_dropWhile_not Text.isBlank s
    cases hcontent : s.dropWhile Text.isBlank with
    | nil => rfl
    | cons c content =>
      rw [hcontent] at hword hhead
      have hc : Text.isBlank c = false := by simpa using hhead
      simp [hc] at hword

-- The search finds the keyword just where it is among as many words as it goes through.
theorem cutAtKeyword?_eq_none_iff {n : Nat} {s : List Char} :
    cutAtKeyword? n s = none ↔ ∀ word ∈ (Text.words s).take n, isKeyword word = false := by
  induction n generalizing s with
  | zero => simp [cutAtKeyword?]
  | succ n ih =>
    obtain ⟨blanks, word, rest, hfirst, hstep⟩ := exists_firstWord s
    rw [hstep, hfirst.words_eq]
    by_cases hword : word = []
    · have hempty : isKeyword [] = false := by decide
      simp [hword, hempty, hfirst.last hword, ih, Text.words, Text.runs]
    · cases hkeyword : isKeyword word with
      | true => simp [hword, hkeyword]
      | false => simp [hword, hkeyword, ih]

theorem cutBehindKeyword_of_eq_some {n : Nat} {s before after : List Char}
    (h : cutAtKeyword? n s = some (before, after)) : CutBehindKeyword n s before after := by
  induction n generalizing s before with
  | zero => cases h
  | succ n ih =>
    obtain ⟨blanks, word, rest, hfirst, hstep⟩ := exists_firstWord s
    rw [hstep] at h
    split at h
    · rename_i hkeyword
      obtain ⟨rfl, rfl⟩ := Prod.mk.inj (Option.some.inj h)
      have hword : word ≠ [] := by
        rintro rfl
        exact absurd hkeyword (by decide)
      refine ⟨hfirst.whole, ⟨[], word, ?_, by simp, by simp, hkeyword⟩, ?_, hfirst.apart⟩
      · rw [hfirst.words_front, if_neg hword, List.nil_append]
      · rw [List.getLast?_append_of_ne_nil blanks hword, List.getLast?_eq_some_getLast hword]
        exact hfirst.visible _ (List.getLast_mem hword)
    · rename_i hkeyword
      obtain ⟨⟨later, _⟩, hlater, hcut⟩ := Option.map_eq_some_iff.mp h
      obtain ⟨rfl, rfl⟩ := Prod.mk.inj hcut
      have hrest := ih hlater
      obtain ⟨earlier, found, hwords, hfew, hother, hfound⟩ := hrest.keyword
      have hne : later ≠ [] := by
        rintro rfl
        simp [Text.words, Text.runs] at hwords
      have hnext : later.head?.any (!Text.isBlank ·) = false := by
        have happart := hfirst.apart
        rwa [hrest.whole, List.head?_append_of_ne_nil later hne] at happart
      have hbefore : Text.words (blanks ++ word ++ later) =
          Text.words (blanks ++ word) ++ Text.words later :=
        Text.runs_append (by simp [hnext])
      refine ⟨?_, ⟨(if word = [] then [] else [word]) ++ earlier, found, ?_, ?_, ?_, hfound⟩, ?_,
        hrest.apart⟩
      · rw [hfirst.whole, hrest.whole, ← List.append_assoc]
      · rw [hbefore, hfirst.words_front, hwords, List.append_assoc]
      · split <;> simp <;> omega
      · split
        · simpa using hother
        · simpa [hkeyword] using hother
      · rw [List.getLast?_append_of_ne_nil (blanks ++ word) hne]
        exact hrest.ends

-- There is one such place, so the search finds it.
theorem cutAtKeyword?_eq_some_iff {n : Nat} {s before after : List Char} :
    cutAtKeyword? n s = some (before, after) ↔ CutBehindKeyword n s before after := by
  refine ⟨cutBehindKeyword_of_eq_some, fun h => ?_⟩
  obtain ⟨earlier, word, hwords, hfew, -, hword⟩ := h.keyword
  cases hcut : cutAtKeyword? n s with
  | none =>
    have hfront : (Text.words s).take (earlier.length + 1) = earlier ++ [word] := by
      rw [h.words_eq, hwords]
      exact List.take_left' (by simp)
    have hmem : word ∈ (Text.words s).take n :=
      List.take_subset_take_left _ hfew (by simp [hfront])
    rw [cutAtKeyword?_eq_none_iff.mp hcut word hmem] at hword
    cases hword
  | some found =>
    obtain ⟨hbefore, hafter⟩ := (cutBehindKeyword_of_eq_some hcut).unique h
    rw [← hbefore, ← hafter]

theorem hasKeyword_iff {index : Index} :
    index.HasKeyword ↔ ∃ before after, CutBehindKeyword 3 index.definition.toList before after := by
  simp only [← cutAtKeyword?_eq_some_iff]
  cases hcut : cutAtKeyword? 3 index.definition.toList with
  | none => simpa [HasKeyword] using cutAtKeyword?_eq_none_iff.mp hcut
  | some cut =>
    have hsome : cutAtKeyword? 3 index.definition.toList ≠ none := by simp [hcut]
    rw [ne_eq, cutAtKeyword?_eq_none_iff] at hsome
    have hkeyword : index.HasKeyword := by simpa [HasKeyword] using hsome
    exact iff_of_true hkeyword ⟨cut.1, cut.2, rfl⟩

-- The guard that is put in behind a keyword stands behind the same keyword.
theorem CutBehindKeyword.insert {n : Nat} {s before after : List Char}
    (h : CutBehindKeyword n s before after) :
    CutBehindKeyword n (before ++ " IF NOT EXISTS".toList ++ after) before
        (" IF NOT EXISTS".toList ++ after) ∧
      isGuarded (" IF NOT EXISTS".toList ++ after) := by
  refine ⟨⟨List.append_assoc _ _ _, h.keyword, h.ends, by simp; decide⟩, ?_⟩
  have hwords : Text.words (" IF NOT EXISTS".toList ++ after) = guardWords ++ Text.words after := by
    have hguard : Text.words " IF NOT EXISTS".toList = guardWords := by decide
    rw [← hguard]
    exact Text.runs_append (by simp [h.apart])
  have hupper : guardWords.map Text.upper = guardWords := by decide
  have hthree : (guardWords ++ Text.words after).take 3 = guardWords := List.take_left' rfl
  rw [isGuarded, hwords, hthree, hupper, beq_self_eq_true]

section Statement

variable {index : Index}

theorem createIfMissing_of_cut {before after : List Char}
    (h : CutBehindKeyword 3 index.definition.toList before after) :
    index.createIfMissing = .ok (if isGuarded after then index.definition
      else String.ofList (before ++ " IF NOT EXISTS".toList ++ after)) := by
  have hguard : guard? index.definition.toList =
      some (if isGuarded after then index.definition.toList
        else before ++ " IF NOT EXISTS".toList ++ after) := by
    rw [guard?, cutAtKeyword?_eq_some_iff.mpr h, Option.map_some]
  rw [createIfMissing, hguard]
  cases isGuarded after with
  | true => exact congrArg Except.ok String.ofList_toList
  | false => rfl

theorem createIfMissing_eq_error_iff {e : Error} :
    index.createIfMissing = .error e ↔
      ¬index.HasKeyword ∧ e = .malformedIndex index.name index.definition := by
  by_cases hkeyword : index.HasKeyword
  · obtain ⟨before, after, hcut⟩ := hasKeyword_iff.mp hkeyword
    simp [createIfMissing_of_cut hcut, hkeyword]
  · have hcut : cutAtKeyword? 3 index.definition.toList = none := by
      rw [cutAtKeyword?_eq_none_iff]
      simpa [HasKeyword] using hkeyword
    have herror : index.createIfMissing = .error (.malformedIndex index.name index.definition) := by
      rw [createIfMissing, guard?, hcut, Option.map_none]
    rw [herror, Except.error.injEq, eq_comm, iff_and_self]
    exact fun _ => hkeyword

theorem exists_eq_ok_iff :
    (∃ statement, index.createIfMissing = .ok statement) ↔ index.HasKeyword := by
  constructor
  · rintro ⟨statement, hok⟩
    by_contra hnone
    rw [createIfMissing_eq_error_iff.mpr ⟨hnone, rfl⟩] at hok
    cases hok
  · intro hkeyword
    obtain ⟨before, after, hcut⟩ := hasKeyword_iff.mp hkeyword
    exact ⟨_, createIfMissing_of_cut hcut⟩

end Statement

-- What the statement has to do with the definition that it is made from. The definition is cut
-- behind the keyword: if the guard stands there the statement is the definition, and otherwise the
-- guard is put in there. A statement has the guard behind its keyword and is its own statement.
structure Guards (definition statement : String) : Prop where
  made : ∃ before after, CutBehindKeyword 3 definition.toList before after ∧
    (statement = definition ↔ isGuarded after) ∧
    (¬isGuarded after → statement.toList = before ++ " IF NOT EXISTS".toList ++ after)
  guarded : ∃ before after, CutBehindKeyword 3 statement.toList before after ∧ isGuarded after
  stable : ∀ name, createIfMissing ⟨name, statement⟩ = .ok statement

theorem guards_of_eq_ok {index : Index} {statement : String}
    (h : index.createIfMissing = .ok statement) : Guards index.definition statement := by
  obtain ⟨before, after, hcut⟩ := hasKeyword_iff.mp (exists_eq_ok_iff.mp ⟨statement, h⟩)
  rw [createIfMissing_of_cut hcut, Except.ok.injEq] at h
  have hinserted (hnone : ¬isGuarded after) :
      statement.toList = before ++ " IF NOT EXISTS".toList ++ after := by
    rw [← h, if_neg hnone, String.toList_ofList]
  have hguarded : ∃ before after, CutBehindKeyword 3 statement.toList before after ∧
      isGuarded after := by
    rw [← h]
    split
    · exact ⟨before, after, hcut, ‹_›⟩
    · rw [String.toList_ofList]
      exact ⟨before, _, hcut.insert⟩
  refine ⟨⟨before, after, hcut, ⟨fun hsame => ?_, fun hguard => ?_⟩, hinserted⟩, hguarded,
    fun name => ?_⟩
  · by_contra hnone
    have hwhole := hinserted hnone
    rw [hsame, hcut.whole, List.append_assoc, List.append_cancel_left_eq,
      List.self_eq_append_left] at hwhole
    exact absurd hwhole (by decide)
  · rw [← h, if_pos hguard]
  · obtain ⟨front, back, hfound, hguard⟩ := hguarded
    have hagain : createIfMissing ⟨name, statement⟩ = _ := createIfMissing_of_cut hfound
    rw [hagain, if_pos hguard]

-- An index has a statement exactly if its definition has the keyword among its first three words.
-- The statement is the definition with the guard behind the keyword, and there is no other error
-- than the one that tells the name of the index and its definition.
theorem createIfMissing_outcome (index : Index) :
    ((∃ statement, index.createIfMissing = .ok statement) ↔ index.HasKeyword) ∧
      (∀ statement, index.createIfMissing = .ok statement ↔ Guards index.definition statement) ∧
      ∀ e, index.createIfMissing = .error e ↔
        ¬index.HasKeyword ∧ e = .malformedIndex index.name index.definition := by
  refine ⟨exists_eq_ok_iff, fun statement => ⟨guards_of_eq_ok, fun h => ?_⟩,
    fun e => createIfMissing_eq_error_iff⟩
  obtain ⟨before, after, hcut, hsame, hinserted⟩ := h.made
  rw [createIfMissing_of_cut hcut]
  split
  · rw [hsame.mpr ‹_›]
  · rw [← hinserted ‹_›, String.ofList_toList]

-- A guard in mixed case, one of its words with a letter outside ASCII, is kept as it is.
example : createIfMissing ⟨"i", "create\u00a0index If not EXI\u017fTS i ON t(c)"⟩ =
    .ok "create\u00a0index If not EXI\u017fTS i ON t(c)" := by
  decide +kernel

end TableForge.Index
