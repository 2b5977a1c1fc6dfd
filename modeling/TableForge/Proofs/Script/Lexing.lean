import TableForge.Script.Token
import Mathlib.Data.List.Basic

namespace TableForge.Script

namespace Token

theorem commentLength_le (s : List Char) : commentLength s ≤ s.length := by
  fun_induction commentLength s with
  | case1 => simp
  | case2 rest => simp
  | case3 c rest _ ih => simp only [List.length_cons]; omega

theorem skipLength_le (s : List Char) : skipLength s ≤ s.length := by
  fun_cases skipLength s with
  | case1 => simp
  | case2 rest =>
    have h := (List.takeWhile_prefix (p := (· ≠ '\n')) (l := rest)).length_le
    simp only [List.length_cons]; omega
  | case3 c rest =>
    have h := commentLength_le (c :: rest)
    simp only [List.length_cons] at h ⊢; omega
  | case4 c rest =>
    have h := (List.takeWhile_prefix (p := continuesSpace) (l := rest)).length_le
    simp only [List.length_cons]; omega
  | case5 c rest => simp

theorem skipLength_space {c : Char} (h : isSpace c) (rest : List Char) :
    skipLength (c :: rest) = (rest.takeWhile continuesSpace).length + 1 := by
  have hminus : c ≠ '-' := by rintro rfl; exact absurd h (by decide)
  have hslash : c ≠ '/' := by rintro rfl; exact absurd h (by decide)
  unfold skipLength
  split <;> simp_all

theorem quotedLength_le (q : Char) (s : List Char) : quotedLength q s ≤ s.length := by
  fun_induction quotedLength q s with
  | case1 => simp
  | case2 => simp
  | case3 => simp_all
  | case4 => simp_all
  | case5 => simp_all

theorem takeWhile_length_le (p : Char → Bool) (s : List Char) : (s.takeWhile p).length ≤ s.length :=
  List.takeWhile_prefix _ |>.length_le

theorem lengthThrough_le (c : Char) (s : List Char) : lengthThrough c s ≤ s.length := by
  have h := takeWhile_length_le (· ≠ c) s
  simp only [lengthThrough]
  split <;> omega

theorem exponentLength_le (s : List Char) : exponentLength s ≤ s.length := by
  fun_cases exponentLength s with
  | case1 => simp
  | case2 e c rest =>
    have := takeWhile_length_le isDigitOrMark rest
    simp; omega
  | case3 e c rest =>
    have := takeWhile_length_le isDigitOrMark rest
    simp; omega
  | case4 => simp
  | case5 => simp

theorem fractionLength_le (s : List Char) : fractionLength s ≤ s.length := by
  fun_cases fractionLength s with
  | case1 rest =>
    have := takeWhile_length_le isDigitOrMark rest
    simp; omega
  | case2 => simp

theorem numberLength_le (s : List Char) : numberLength s ≤ s.length := by
  simp only [numberLength]
  split
  · rename_i h
    have h2 : 2 ≤ s.length := by
      unfold isHexNumber at h
      split at h <;> simp_all
    have := takeWhile_length_le (fun c => isHexDigit c || c = '_') (s.drop 2)
    simp only [List.length_drop] at this
    omega
  · have h1 := takeWhile_length_le isDigitOrMark s
    have h2 := fractionLength_le (s.drop (s.takeWhile isDigitOrMark).length)
    have h3 := exponentLength_le (s.drop ((s.takeWhile isDigitOrMark).length +
      fractionLength (s.drop (s.takeWhile isDigitOrMark).length)))
    simp only [List.length_drop] at h2 h3
    omega

theorem markLength_le (hasName : Bool) (s : List Char) : markLength hasName s ≤ s.length := by
  fun_induction markLength hasName s with
  | case1 => simp; omega
  | case2 rest inner =>
    have := takeWhile_length_le (fun c => !isSpace c && c ≠ '\x0b' && c ≠ ')') rest
    split
    · rename_i h
      have := (List.getElem?_eq_some_iff.mp h).1
      simp; omega
    · simp; omega
  | case3 => simp
  | case4 => simp; omega
  | case5 => simp
  | case6 => simp

theorem symbolLength_le (c : Char) (rest : List Char) :
    symbolLength (c :: rest) ≤ (c :: rest).length := by
  simp only [symbolLength]
  cases h : longSymbols.find? fun long => long.toList.isPrefixOf (c :: rest) with
  | none => simp
  | some long =>
    have hp := List.find?_some h
    rw [Option.map_some, Option.getD_some, ← String.length_toList]
    exact (List.isPrefixOf_iff_prefix.mp hp).length_le

theorem symbolLength_pos (s : List Char) : 0 < symbolLength s := by
  simp only [symbolLength]
  cases h : longSymbols.find? fun long => long.toList.isPrefixOf s with
  | none => simp
  | some long =>
    have hl : ∀ long ∈ longSymbols, 0 < long.length := by decide
    simpa using hl long (List.mem_of_find?_eq_some h)

theorem numberLength_pos {s : List Char} (h : startsNumber s) : 0 < numberLength s := by
  unfold numberLength
  split
  · omega
  · fun_cases startsNumber s with
    | case1 d rest =>
      have hd : ('.' : Char).isDigit = false := by decide
      have hwhole : ('.' :: d :: rest).takeWhile isDigitOrMark = [] := by simp [isDigitOrMark, hd]
      simp only [hwhole, List.length_nil, List.drop_zero, fractionLength]
      omega
    | case2 c rest =>
      have hc : isDigitOrMark c := by simp_all [startsNumber, isDigitOrMark]
      simp only [List.takeWhile_cons, hc, if_true, List.length_cons]
      omega
    | case3 => simp [startsNumber] at h

theorem length_pos (c : Char) (rest : List Char) : 0 < length (c :: rest) := by
  simp only [length]
  split_ifs with h1 h2 h3 h4 h5 h6 h7
  all_goals first | omega | exact symbolLength_pos _ | skip
  exact Nat.add_pos_left (numberLength_pos h5) _

-- A token is made of characters of the text.
theorem length_le (c : Char) (rest : List Char) :
    length (c :: rest) ≤ (c :: rest).length := by
  simp only [length]
  split_ifs with h1 h2 h3 h4 h5 h6 h7
  · exact Nat.succ_le_succ (quotedLength_le _ _)
  · exact Nat.succ_le_succ (lengthThrough_le _ _)
  · exact Nat.succ_le_succ (takeWhile_length_le _ _)
  · exact Nat.succ_le_succ (markLength_le _ _)
  · have h := numberLength_le (c :: rest)
    have ht := takeWhile_length_le isNameChar ((c :: rest).drop (numberLength (c :: rest)))
    simp only [List.length_drop] at ht
    omega
  · have h := lengthThrough_le '\'' rest.tail
    cases rest with
    | nil => simp at h6
    | cons d tail => simp only [List.tail_cons, List.length_cons] at h ⊢; omega
  · exact Nat.succ_le_succ (takeWhile_length_le _ _)
  · exact symbolLength_le c rest

end Token

-- The characters of the tokens of a text, in order.
def spellings (s : List Char) : List (List Char) := (scan (s.length + 1) [] s).1.map (·.raw)

-- Neither spare fuel nor what stands before a text changes its tokens.
theorem raws_scan (fuel other : Nat) (lead front s : List Char)
    (hf : s.length < fuel) (ho : s.length < other) :
    (scan fuel lead s).1.map (·.raw) = (scan other front s).1.map (·.raw) := by
  induction fuel generalizing other lead front s with
  | zero => omega
  | succ fuel ih =>
    cases other with
    | zero => omega
    | succ other =>
      cases s with
      | nil => simp [scan]
      | cons c rest =>
        simp only [scan]
        split
        · have hl := Token.length_pos c rest
          have hd : ((c :: rest).drop (Token.length (c :: rest))).length < rest.length + 1 := by
            simp only [List.length_drop, List.length_cons]; omega
          simp only [List.length_cons] at hf ho
          simp only [List.map_cons]
          rw [ih other [] [] _ (by omega) (by omega)]
        · rename_i n hn
          have hd : ((c :: rest).drop (n + 1)).length < rest.length + 1 := by
            simp only [List.length_drop, List.length_cons]; omega
          simp only [List.length_cons] at hf ho
          exact ih other _ _ _ (by omega) (by omega)

@[simp] theorem spellings_nil : spellings [] = [] := rfl

-- White space and comments are no tokens.
theorem spellings_skip {a rest : List Char} (ha : a ≠ [])
    (h : Token.skipLength (a ++ rest) = a.length) : spellings (a ++ rest) = spellings rest := by
  cases a with
  | nil => exact absurd rfl ha
  | cons c a =>
    have hd : (c :: a ++ rest).drop (a.length + 1) = rest := by simp
    simp only [List.cons_append, List.length_cons] at h hd
    simp only [spellings, List.cons_append, scan, h, hd]
    have hlength : rest.length < (c :: (a ++ rest)).length := by
      simp only [List.length_cons, List.length_append]
      omega
    exact raws_scan _ _ _ _ _ hlength (by simp)

-- A token is spelled by the characters that the lexer takes for it.
theorem spellings_token {raw rest : List Char} (hraw : raw ≠ [])
    (hs : Token.skipLength (raw ++ rest) = 0) (hl : Token.length (raw ++ rest) = raw.length) :
    spellings (raw ++ rest) = raw :: spellings rest := by
  cases raw with
  | nil => exact absurd rfl hraw
  | cons c raw =>
    have hd : (c :: raw ++ rest).drop (raw.length + 1) = rest := by simp
    have ht : (c :: raw ++ rest).take (raw.length + 1) = c :: raw := by simp
    simp only [List.cons_append, List.length_cons] at hs hl hd ht
    simp only [spellings, List.cons_append, scan, hs, hl, hd, ht, List.map_cons]
    have hlength : rest.length < (c :: (raw ++ rest)).length := by
      simp only [List.length_cons, List.length_append]
      omega
    rw [raws_scan _ (rest.length + 1) _ [] _ hlength (by simp)]

-- Every text is taken apart into white space, comments and tokens, from the front.
theorem lexing_induction {P : List Char → Prop} (nil : P [])
    (skip : ∀ a rest, a ≠ [] → Token.skipLength (a ++ rest) = a.length → P rest → P (a ++ rest))
    (token : ∀ raw rest, raw ≠ [] → Token.skipLength (raw ++ rest) = 0 →
      Token.length (raw ++ rest) = raw.length → P rest → P (raw ++ rest))
    (s : List Char) : P s := by
  induction hn : s.length using Nat.strongRecOn generalizing s with
  | ind n ih =>
    cases s with
    | nil => exact nil
    | cons c rest =>
      cases hk : Token.skipLength (c :: rest) with
      | zero =>
        have hpos := Token.length_pos c rest
        have hle := Token.length_le c rest
        have hsplit := List.take_append_drop (Token.length (c :: rest)) (c :: rest)
        have hlen : ((c :: rest).take (Token.length (c :: rest))).length =
            Token.length (c :: rest) := List.length_take_of_le hle
        rw [← hsplit]
        apply token
        · intro he
          simp only [he, List.length_nil] at hlen
          omega
        · rw [hsplit, hk]
        · rw [hsplit, hlen]
        · exact ih _ (by simp only [List.length_drop]; simp only [List.length_cons] at *; omega)
            _ rfl
      | succ k =>
        have hle := Token.skipLength_le (c :: rest)
        have hsplit := List.take_append_drop (k + 1) (c :: rest)
        have hlen : ((c :: rest).take (k + 1)).length = k + 1 :=
          List.length_take_of_le (by omega)
        rw [← hsplit]
        apply skip
        · simp
        · rw [hsplit, hk, hlen]
        · exact ih _ (by simp only [List.length_drop]; simp only [List.length_cons] at *; omega)
            _ rfl

-- The tokens of a script are those of its text before the first zero character, and the end.
theorem raws_lexemes (script : String) :
    (lexemes script).map (·.raw) =
      spellings (script.toList.takeWhile (·.toNat ≠ 0)) ++ [[]] := by
  simp [lexemes, spellings]

end TableForge.Script
