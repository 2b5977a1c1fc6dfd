import TableForge.Proofs.Code.StringLiteral
import TableForge.Proofs.Script.Lexing
import Mathlib.Data.List.TakeWhile

namespace TableForge.Code.StringLiteral

open Script Script.Token

-- Where a text without line breaks stands in front, it stays as it is.
theorem foldLines_append_of_oneLine {a : List Char} (ha : a ≠ []) (hline : OneLine a)
    (last : Option Char) (rest : List Char) :
    foldLines last (a ++ rest) = a ++ foldLines a.getLast? rest := by
  induction a generalizing last with
  | nil => exact absurd rfl ha
  | cons c a ih =>
    obtain ⟨⟨hn, hr⟩, hrest⟩ := oneLine_cons.mp hline
    simp only [List.cons_append, foldLines, if_neg hr, if_neg hn]
    cases a with
    | nil => rfl
    | cons d a => rw [ih (by simp) hrest, List.getLast?_cons_cons, List.cons_append]

-- What becomes of the front of a text has only its characters and blanks.
theorem foldLines_append (last : Option Char) (a rest : List Char) :
    ∃ mid next, foldLines last (a ++ rest) = mid ++ foldLines next rest ∧
      ∀ c ∈ mid, c ∈ a ∨ c = ' ' := by
  induction a generalizing last with
  | nil => exact ⟨[], last, rfl, by simp⟩
  | cons c a ih =>
    simp only [List.cons_append, foldLines]
    split
    · obtain ⟨mid, next, heq, hmem⟩ := ih last
      exact ⟨mid, next, heq, fun d hd => (hmem d hd).imp_left (List.mem_cons_of_mem _)⟩
    split
    · split
      · obtain ⟨mid, next, heq, hmem⟩ := ih (some ' ')
        refine ⟨' ' :: mid, next, by rw [heq, List.cons_append], ?_⟩
        rintro d (_ | ⟨_, hd⟩)
        · exact .inr rfl
        · exact (hmem d hd).imp_left (List.mem_cons_of_mem _)
      · obtain ⟨mid, next, heq, hmem⟩ := ih last
        exact ⟨mid, next, heq, fun d hd => (hmem d hd).imp_left (List.mem_cons_of_mem _)⟩
    · obtain ⟨mid, next, heq, hmem⟩ := ih (some c)
      refine ⟨c :: mid, next, by rw [heq, List.cons_append], ?_⟩
      rintro d (_ | ⟨_, hd⟩)
      · exact .inl (by simp)
      · exact (hmem d hd).imp_left (List.mem_cons_of_mem _)

-- The first character of a text on one line, unless it is a blank, had only breaks before it.
theorem head_foldLines {last : Option Char} {s rest : List Char} {c : Char} (hc : c ≠ ' ')
    (h : foldLines last s = c :: rest) :
    ∃ breaks tail, s = breaks ++ c :: tail ∧ ∀ d ∈ breaks, d = '\n' ∨ d = '\r' := by
  induction s generalizing last with
  | nil => simp [foldLines] at h
  | cons d s ih =>
    have hcons {last' : Option Char} (hd : d = '\n' ∨ d = '\r')
        (h : foldLines last' s = c :: rest) :
        ∃ breaks tail, d :: s = breaks ++ c :: tail ∧ ∀ d ∈ breaks, d = '\n' ∨ d = '\r' := by
      obtain ⟨breaks, tail, rfl, hbreaks⟩ := ih h
      exact ⟨d :: breaks, tail, rfl, by simpa using ⟨hd, hbreaks⟩⟩
    simp only [foldLines] at h
    split at h
    · rename_i hr
      exact hcons (.inr hr) h
    split at h
    · rename_i hn
      split at h
      · exact absurd (List.cons.inj h).1.symm hc
      · exact hcons (.inl hn) h
    · exact ⟨[], s, by rw [(List.cons.inj h).1]; rfl, by simp⟩

-- Cutting a text off at characters that are neither blanks nor breaks nor in words can as well
-- come first.
theorem takeWhile_foldLines {p : Char → Bool} (hblank : p ' ') (hn : p '\n') (hr : p '\r')
    (hword : ∀ c, Text.isWordChar c → p c) (last : Option Char) (s : List Char) :
    (foldLines last s).takeWhile p = foldLines last (s.takeWhile p) := by
  induction s generalizing last with
  | nil => rfl
  | cons c s ih =>
    have hnext : (s.takeWhile p).head?.any Text.isWordChar = s.head?.any Text.isWordChar := by
      cases s with
      | nil => rfl
      | cons d s =>
        cases hd : p d with
        | false =>
          have hw : Text.isWordChar d = false := by
            by_contra hw
            simp [hword d (by simpa using hw)] at hd
          simp [hd, hw]
        | true => simp [hd]
    cases hc : p c with
    | false =>
      have hcn : c ≠ '\n' := by rintro rfl; simp [hn] at hc
      have hcr : c ≠ '\r' := by rintro rfl; simp [hr] at hc
      simp [foldLines, hc, hcn, hcr]
    | true =>
      rw [List.takeWhile_cons_of_pos hc]
      simp only [foldLines, hnext]
      split
      · exact ih last
      split
      · split
        · rw [List.takeWhile_cons_of_pos hblank, ih]
        · exact ih last
      · rw [List.takeWhile_cons_of_pos hc, ih]

-- The tokens of a text stay as they are when it is brought onto one line, `last` being the
-- character before it: no token has a line break or runs on into what follows on the line, and
-- no token stands behind a comment that ends with its line.
inductive Kept : Option Char → List Char → Prop where
  | done (last : Option Char) : Kept last []
  | comment (last : Option Char) {rest : List Char} (h : spellings ('-' :: '-' :: rest) = []) :
    Kept last ('-' :: '-' :: rest)
  | skip {last next : Option Char} {a mid rest : List Char} (ha : a ≠ [])
    (hs : skipLength (a ++ rest) = a.length)
    (hfold : foldLines last (a ++ rest) = mid ++ foldLines next rest)
    (hmid : mid = [] ∨ skipLength (mid ++ foldLines next rest) = mid.length)
    (hrest : Kept next rest) : Kept last (a ++ rest)
  | token (last : Option Char) {raw rest : List Char} (hraw : raw ≠ [])
    (hs : skipLength (raw ++ rest) = 0) (hl : length (raw ++ rest) = raw.length)
    (hline : OneLine raw) (hs' : skipLength (raw ++ foldLines raw.getLast? rest) = 0)
    (hl' : length (raw ++ foldLines raw.getLast? rest) = raw.length)
    (hrest : Kept raw.getLast? rest) : Kept last (raw ++ rest)

theorem skipLength_comment {s : List Char} (h : OneLine s) :
    skipLength ('-' :: '-' :: s) = s.length + 2 := by
  have hall : ∀ c ∈ s, decide (c ≠ '\n') = true := fun c hc => by simpa using (h c hc).1
  have hs : s.takeWhile (· ≠ '\n') = s := List.takeWhile_eq_self_iff.mpr hall
  rw [skipLength, hs]

-- On one line nothing stands behind a comment that ends with its line.
theorem spellings_comment {s : List Char} (h : OneLine s) : spellings ('-' :: '-' :: s) = [] := by
  have hall : skipLength ('-' :: '-' :: s ++ []) = ('-' :: '-' :: s).length := by
    rw [List.append_nil, skipLength_comment h]
    rfl
  have hskip := spellings_skip (by simp) hall
  rwa [List.append_nil] at hskip

theorem spellings_foldLines {last : Option Char} {s : List Char} (h : Kept last s) :
    spellings (foldLines last s) = spellings s := by
  induction h with
  | done last => rfl
  | @comment last rest h =>
    have hfold : foldLines last ('-' :: '-' :: rest) =
        '-' :: '-' :: foldLines (some '-') rest := rfl
    rw [hfold, h, spellings_comment (oneLine_foldLines _ _)]
  | @skip last next a mid rest ha hs hfold hmid _ ih =>
    rw [hfold, spellings_skip ha hs, ← ih]
    obtain rfl | hmid := hmid
    · rfl
    · cases mid with
      | nil => rfl
      | cons c mid => exact spellings_skip (by simp) hmid
  | token last hraw hs hl hline hs' hl' _ ih =>
    rw [foldLines_append_of_oneLine hraw hline, spellings_token hraw hs hl,
      spellings_token hraw hs' hl', ih]

-- Characters of tokens are characters of the text.
theorem mem_of_mem_spellings {s raw : List Char} (h : raw ∈ spellings s) : ∀ c ∈ raw, c ∈ s := by
  induction s using lexing_induction with
  | nil => simp at h
  | skip a rest ha hs ih =>
    rw [spellings_skip ha hs] at h
    exact fun c hc => List.mem_append_right _ (ih h c hc)
  | token front rest hraw hs hl ih =>
    rw [spellings_token hraw hs hl, List.mem_cons] at h
    obtain rfl | h := h
    · exact fun c hc => List.mem_append_left _ hc
    · exact fun c hc => List.mem_append_right _ (ih h c hc)

-- The first token of a text, when no white space stands before it.
theorem spellings_cons {s : List Char} (hs : s ≠ []) (h : skipLength s = 0) :
    spellings s = s.take (length s) :: spellings (s.drop (length s)) := by
  have hsplit := List.take_append_drop (length s) s
  have hle : length s ≤ s.length := by
    cases s with
    | nil => exact absurd rfl hs
    | cons c rest => exact length_le c rest
  have hlen : (s.take (length s)).length = length s := List.length_take_of_le hle
  have hpos : 0 < length s := by
    cases s with
    | nil => exact absurd rfl hs
    | cons c rest => exact length_pos c rest
  have hraw : s.take (length s) ≠ [] := by
    intro hnil
    rw [hnil, List.length_nil] at hlen
    omega
  have htoken := spellings_token hraw (by rw [hsplit, h]) (by rw [hsplit, hlen])
  rwa [hsplit] at htoken

-- What white space or comment a text begins with.
theorem skipLength_cases {s : List Char} (h : skipLength s ≠ 0) :
    (∃ rest, s = '-' :: '-' :: rest) ∨ (∃ c rest, s = '/' :: '*' :: c :: rest) ∨
      ∃ c rest, s = c :: rest ∧ isSpace c := by
  fun_cases skipLength s with
  | case1 => simp [skipLength] at h
  | case2 rest => exact .inl ⟨rest, rfl⟩
  | case3 c rest => exact .inr (.inl ⟨c, rest, rfl⟩)
  | case4 c rest _ _ hc => exact .inr (.inr ⟨c, rest, rfl, hc⟩)
  | case5 c rest h1 h2 hc => exact absurd (by rw [skipLength.eq_def]; split <;> simp_all) h

-- No line break parts the two characters of a mark that begins or ends a comment.
structure WholeMarks (s : List Char) : Prop where
  opening : ∀ front breaks rest, s = front ++ '/' :: (breaks ++ '*' :: rest) →
    (∀ d ∈ breaks, d = '\n' ∨ d = '\r') → breaks = []
  closing : ∀ front breaks rest, s = front ++ '*' :: (breaks ++ '/' :: rest) →
    (∀ d ∈ breaks, d = '\n' ∨ d = '\r') → breaks = []

theorem WholeMarks.of_append {a s : List Char} (h : WholeMarks (a ++ s)) : WholeMarks s where
  opening := by
    rintro front breaks rest rfl
    exact h.opening (a ++ front) breaks rest (by simp)
  closing := by
    rintro front breaks rest rfl
    exact h.closing (a ++ front) breaks rest (by simp)

theorem commentLength_cons {c : Char} {s : List Char} (h : c = '*' → s.head? ≠ some '/') :
    commentLength (c :: s) = commentLength s + 1 := by
  rw [commentLength]
  rintro tail rfl rfl
  exact h rfl rfl

-- A comment of several lines ends on one line where it ended before.
theorem commentLength_foldLines {s : List Char} (h : WholeMarks s) (last : Option Char) :
    ∃ mid next, foldLines last s = mid ++ foldLines next (s.drop (commentLength s)) ∧
      commentLength (foldLines last s) = mid.length := by
  fun_induction commentLength s generalizing last with
  | case1 => exact ⟨[], last, rfl, rfl⟩
  | case2 rest => exact ⟨['*', '/'], some '/', rfl, rfl⟩
  | case3 c rest hclose ih =>
    have hrest : WholeMarks rest := h.of_append (a := [c])
    simp only [foldLines, List.drop_succ_cons]
    split
    · exact ih hrest last
    split
    · split
      · obtain ⟨mid, next, heq, hlen⟩ := ih hrest (some ' ')
        refine ⟨' ' :: mid, next, by rw [heq, List.cons_append], ?_⟩
        rw [commentLength_cons (by simp), hlen, List.length_cons]
      · exact ih hrest last
    · obtain ⟨mid, next, heq, hlen⟩ := ih hrest (some c)
      refine ⟨c :: mid, next, by rw [heq, List.cons_append], ?_⟩
      rw [commentLength_cons ?_, hlen, List.length_cons]
      rintro rfl hhead
      obtain ⟨tail, htail⟩ := List.head?_eq_some_iff.mp hhead
      obtain ⟨breaks, more, rfl, hbreaks⟩ := head_foldLines (by decide) htail
      obtain rfl := h.closing [] breaks more rfl hbreaks
      exact hclose more rfl rfl

theorem eq_break_of_foldLines_eq_nil {last : Option Char} {s : List Char}
    (h : foldLines last s = []) : ∀ c ∈ s, c = '\n' ∨ c = '\r' := by
  induction s generalizing last with
  | nil => simp
  | cons c s ih =>
    simp only [foldLines] at h
    split at h
    · rename_i hr
      exact List.forall_mem_cons.mpr ⟨.inr hr, ih h⟩
    split at h
    · rename_i hn
      split at h
      · simp at h
      · exact List.forall_mem_cons.mpr ⟨.inl hn, ih h⟩
    · simp at h

-- White space leaves nothing behind on one line, or white space that ends where it ended before,
-- unless a vertical tab comes to its front: this continues white space but does not begin it.
theorem exists_skip_space {c : Char} {a rest : List Char} (hc : isSpace c)
    (hs : skipLength (c :: a ++ rest) = (c :: a).length) (last : Option Char) :
    ∃ mid next, foldLines last (c :: a ++ rest) = mid ++ foldLines next rest ∧
      (mid = [] ∨ skipLength (mid ++ foldLines next rest) = mid.length ∨
        mid.head? = some '\x0b') := by
  have htake : (a ++ rest).takeWhile continuesSpace = a := by
    rw [List.cons_append, skipLength_space hc, List.length_cons] at hs
    have hfront : (a ++ rest).takeWhile continuesSpace <+: a ++ rest :=
      List.takeWhile_prefix continuesSpace
    rw [List.prefix_iff_eq_take.mp hfront, Nat.succ.inj hs, List.take_left]
  have hall : ∀ d ∈ a, continuesSpace d = true := by
    intro d hd
    rw [← htake] at hd
    exact List.mem_takeWhile_imp hd
  have hrest : rest.takeWhile continuesSpace = [] := by
    rw [List.takeWhile_append_of_pos hall] at htake
    simpa using htake
  obtain ⟨mid, next, heq, hmem⟩ := foldLines_append last (c :: a) rest
  have hmid : ∀ d ∈ mid, continuesSpace d = true := by
    intro d hd
    obtain hd | rfl := hmem d hd
    · obtain rfl | hd := List.mem_cons.mp hd
      · simp [continuesSpace, hc]
      · exact hall d hd
    · decide
  have hstop : (foldLines next rest).takeWhile continuesSpace = [] := by
    cases rest with
    | nil => rfl
    | cons d rest =>
      have hd : continuesSpace d = false := by
        by_contra hd
        simp [List.takeWhile_cons, hd] at hrest
      have hn : d ≠ '\n' := by rintro rfl; exact absurd hd (by decide)
      have hr : d ≠ '\r' := by rintro rfl; exact absurd hd (by decide)
      simp [foldLines, hn, hr, hd]
  refine ⟨mid, next, heq, ?_⟩
  cases mid with
  | nil => exact .inl rfl
  | cons d mid =>
    obtain ⟨hd, hmid⟩ := List.forall_mem_cons.mp hmid
    by_cases htab : d = '\x0b'
    · exact .inr (.inr (by rw [htab]; rfl))
    · have hspace : isSpace d = true := by simpa [continuesSpace, htab] using hd
      rw [List.cons_append, skipLength_space hspace, List.takeWhile_append_of_pos hmid, hstop,
        List.append_nil]
      exact .inr (.inl rfl)

-- A token that is still read in front of the folded rest is read as it was.
theorem length_eq_of_spellings {raw rest : List Char} {more : List (List Char)} (hraw : raw ≠ [])
    (hs : skipLength (raw ++ rest) = 0) (h : spellings (raw ++ rest) = raw :: more) :
    length (raw ++ rest) = raw.length ∧ spellings rest = more := by
  rw [spellings_cons (by simp [hraw]) hs] at h
  obtain ⟨htake, hdrop⟩ := List.cons.inj h
  have hlen : length (raw ++ rest) = raw.length := by
    have hle : length (raw ++ rest) ≤ (raw ++ rest).length := by
      cases raw with
      | nil => exact absurd rfl hraw
      | cons c raw => exact length_le c _
    have heq := congrArg List.length htake
    rwa [List.length_take_of_le hle] at heq
  refine ⟨hlen, ?_⟩
  rwa [hlen, List.drop_left] at hdrop

-- These characters are tokens of their own.
theorem length_lone {c : Char} (hc : c = '/' ∨ c = '\x0b') (rest : List Char) :
    length (c :: rest) = 1 := by
  have hnone : (longSymbols.find? fun long => long.toList.isPrefixOf (c :: rest)) = none := by
    obtain rfl | rfl := hc <;> simp [longSymbols]
  obtain rfl | rfl := hc <;>
    simp [length, isMark, startsNumber, isWordStart, symbolLength, hnone]

theorem spellings_tab (rest : List Char) : ['\x0b'] ∈ spellings ('\x0b' :: rest) := by
  have hspace : isSpace '\x0b' = false := by decide
  have hs : skipLength ('\x0b' :: rest) = 0 := by simp [skipLength, hspace]
  rw [spellings_cons (by simp) hs, length_lone (.inr rfl)]
  simp

-- Bringing what follows a token onto one line makes no white space and no comment of it, unless
-- nothing is left of the text.
theorem skipLength_token {raw rest : List Char} (hraw : raw ≠ [])
    (hs : skipLength (raw ++ rest) = 0) (hl : length (raw ++ rest) = raw.length)
    (hp : WholeMarks (raw ++ rest)) (hline : OneLine raw)
    (hne : spellings (raw ++ foldLines raw.getLast? rest) ≠ []) :
    skipLength (raw ++ foldLines raw.getLast? rest) = 0 := by
  by_contra hskip
  cases raw with
  | nil => exact hraw rfl
  | cons d raw =>
    obtain ⟨tail, htail⟩ | ⟨c, tail, htail⟩ | ⟨c, tail, htail, hc⟩ := skipLength_cases hskip
    · have hall := oneLine_append.mpr ⟨hline, oneLine_foldLines (d :: raw).getLast? rest⟩
      rw [htail] at hall hne
      exact hne (spellings_comment (oneLine_cons.mp (oneLine_cons.mp hall).2).2)
    · obtain ⟨rfl, htail⟩ := List.cons.inj htail
      rw [List.cons_append, length_lone (.inl rfl), List.length_cons] at hl
      obtain rfl : raw = [] := List.eq_nil_of_length_eq_zero (by omega)
      obtain ⟨breaks, more, rfl, hbreaks⟩ := head_foldLines (by decide) htail
      obtain rfl := hp.opening [] breaks more rfl hbreaks
      cases more with
      | nil => simp [foldLines] at htail
      | cons e more => simp [skipLength] at hs
    · obtain ⟨rfl, -⟩ := List.cons.inj htail
      rw [List.cons_append, skipLength_space hc] at hs
      omega

-- Where no break parts the marks of a comment and no vertical tab is a token, only kept texts
-- have the same tokens on one line.
theorem kept_of_spellings {last : Option Char} {s : List Char} (hp : WholeMarks s)
    (htab : ['\x0b'] ∉ spellings s) (h : spellings (foldLines last s) = spellings s) :
    Kept last s := by
  induction s using lexing_induction generalizing last with
  | nil => exact .done last
  | skip a rest ha hs ih =>
    have hpos : skipLength (a ++ rest) ≠ 0 := by
      rw [hs]
      exact fun h => ha (List.eq_nil_of_length_eq_zero h)
    have hstep {mid : List Char} {next : Option Char}
        (hfold : foldLines last (a ++ rest) = mid ++ foldLines next rest)
        (hmid : mid = [] ∨ skipLength (mid ++ foldLines next rest) = mid.length) :
        Kept last (a ++ rest) := by
      rw [spellings_skip ha hs] at h htab
      refine .skip ha hs hfold hmid (ih hp.of_append htab ?_)
      rw [hfold] at h
      rw [← h]
      obtain rfl | hmid := hmid
      · rfl
      · cases mid with
        | nil => rfl
        | cons c mid => exact (spellings_skip (by simp) hmid).symm
    obtain ⟨tail, htail⟩ | ⟨c, tail, htail⟩ | ⟨c, tail, htail, hc⟩ := skipLength_cases hpos
    · rw [htail] at h ⊢
      refine .comment last ?_
      rw [← h]
      exact spellings_comment (oneLine_foldLines (some '-') tail)
    · have hfirst : foldLines last (a ++ rest) =
          '/' :: '*' :: foldLines (some '*') (c :: tail) := by
        rw [htail]
        rfl
      have hlen : a.length = commentLength (c :: tail) + 2 := by
        rw [← hs, htail]
        rfl
      have hrest : (c :: tail).drop (commentLength (c :: tail)) = rest := by
        have hdrop : (a ++ rest).drop a.length = rest := List.drop_left
        rwa [hlen, htail] at hdrop
      have hwhole : WholeMarks (c :: tail) := by
        rw [htail] at hp
        exact WholeMarks.of_append (a := ['/', '*']) hp
      obtain ⟨mid, next, heq, hmid⟩ := commentLength_foldLines hwhole (some '*')
      rw [hrest] at heq
      cases hf : foldLines (some '*') (c :: tail) with
      | nil =>
        -- the comment never ends and its opening alone is no comment
        have hmarks : spellings ['/', '*'] = [['/'], ['*']] := rfl
        rw [hfirst, hf, hmarks, spellings_skip ha hs] at h
        have hmem : ['/'] ∈ spellings rest := by simp [← h]
        have hslash : '/' ∈ rest := mem_of_mem_spellings hmem '/' (by simp)
        rw [← hrest] at hslash
        have hbreak := eq_break_of_foldLines_eq_nil hf '/' (List.mem_of_mem_drop hslash)
        exact absurd hbreak (by decide)
      | cons e more =>
        have hfold : foldLines last (a ++ rest) = ('/' :: '*' :: mid) ++ foldLines next rest := by
          rw [hfirst, heq]
          rfl
        refine hstep hfold (.inr ?_)
        have hskip : skipLength ('/' :: '*' :: (e :: more)) = commentLength (e :: more) + 2 := rfl
        rw [List.cons_append, List.cons_append, ← heq, hf, hskip, ← hf, hmid]
        rfl
    · cases a with
      | nil => exact absurd rfl ha
      | cons d a =>
        obtain ⟨rfl, -⟩ := List.cons.inj htail
        obtain ⟨mid, next, hfold, hmid | hmid | hmid⟩ := exists_skip_space hc hs last
        · exact hstep hfold (.inl hmid)
        · exact hstep hfold (.inr hmid)
        · obtain ⟨mid, rfl⟩ := List.head?_eq_some_iff.mp hmid
          rw [hfold] at h
          exact absurd (h ▸ spellings_tab _) htab
  | token raw rest hraw hs hl ih =>
    rw [spellings_token hraw hs hl] at h htab
    have hline : OneLine raw := by
      intro c hc
      have hmem : raw ∈ spellings (foldLines last (raw ++ rest)) := by simp [h]
      exact oneLine_foldLines _ _ c (mem_of_mem_spellings hmem c hc)
    rw [foldLines_append_of_oneLine hraw hline] at h
    have hs' := skipLength_token hraw hs hl hp hline (by simp [h])
    obtain ⟨hl', hrest⟩ := length_eq_of_spellings hraw hs' h
    have htab : ['\x0b'] ∉ spellings rest := fun hmem => htab (List.mem_cons_of_mem _ hmem)
    exact .token last hraw hs hl hline hs' hl' (ih hp.of_append htab hrest)

end TableForge.Code.StringLiteral
