import TableForge.Proofs.Text.Join
import TableForge.Proofs.Text.Quoted
import TableForge.Proofs.Text.Run
import TableForge.Text.Ascii

namespace TableForge.Text

-- Every line feed gets a carriage return in front of it.
def withReturns (s : List Char) : List Char :=
  s.flatMap fun c => if c = '\n' then ['\r', '\n'] else [c]

-- `withReturns` on strings.
def withReturnsText (s : String) : String := String.ofList (withReturns s.toList)

@[simp] theorem toList_withReturnsText (s : String) :
    (withReturnsText s).toList = withReturns s.toList := String.toList_ofList

@[simp] theorem withReturns_nil : withReturns [] = [] := rfl

@[simp] theorem withReturns_feed (s : List Char) :
    withReturns ('\n' :: s) = '\r' :: '\n' :: withReturns s := rfl

theorem withReturns_cons_of_ne {c : Char} (h : c ≠ '\n') (s : List Char) :
    withReturns (c :: s) = c :: withReturns s := by
  simp [withReturns, h]

@[simp] theorem withReturns_append (s t : List Char) :
    withReturns (s ++ t) = withReturns s ++ withReturns t := List.flatMap_append

theorem withReturns_intercalate (separator : List Char) (items : List (List Char)) :
    withReturns (separator.intercalate items) =
      (withReturns separator).intercalate (items.map withReturns) := flatMap_intercalate _

theorem withReturns_eq_self {s : List Char} (h : '\n' ∉ s) : withReturns s = s := by
  induction s with
  | nil => rfl
  | cons c s ih =>
    simp only [List.mem_cons, not_or] at h
    rw [withReturns_cons_of_ne (Ne.symm h.1), ih h.2]

-- Tests that tell the two line ends from each other by nothing.
section Tests

variable {p : Char → Bool}

theorem any_head_withReturns (h : p '\r' = p '\n') (s : List Char) :
    (withReturns s).head?.any p = s.head?.any p := by
  cases s with
  | nil => rfl
  | cons c s =>
    by_cases hc : c = '\n'
    · rw [hc, withReturns_feed]
      exact h
    · rw [withReturns_cons_of_ne hc]
      rfl

theorem takeWhile_withReturns (h : p '\r' = p '\n') (s : List Char) :
    (withReturns s).takeWhile p = withReturns (s.takeWhile p) := by
  induction s with
  | nil => rfl
  | cons c s ih =>
    by_cases hc : c = '\n'
    · rw [hc, withReturns_feed]
      cases hn : p '\n' with
      | false => simp [h, hn]
      | true => simp [h, hn, ih]
    · rw [withReturns_cons_of_ne hc]
      cases hp : p c with
      | false => simp [hp]
      | true => simp [hp, ih, withReturns_cons_of_ne hc]

theorem dropWhile_withReturns (h : p '\r' = p '\n') (s : List Char) :
    (withReturns s).dropWhile p = withReturns (s.dropWhile p) := by
  induction s with
  | nil => rfl
  | cons c s ih =>
    by_cases hc : c = '\n'
    · rw [hc, withReturns_feed]
      cases hn : p '\n' with
      | false => simp [h, hn]
      | true => simp [h, hn, ih]
    · rw [withReturns_cons_of_ne hc]
      cases hp : p c with
      | false => simp [hp, withReturns_cons_of_ne hc]
      | true => simp [hp, ih]

theorem all_withReturns (hr : p '\r' = true) (hn : p '\n' = true) (s : List Char) :
    (withReturns s).all p = s.all p := by
  induction s with
  | nil => rfl
  | cons c s ih =>
    by_cases hc : c = '\n'
    · simp [hc, hr, hn, ih]
    · simp [withReturns_cons_of_ne hc, ih]

theorem runs_withReturns (hr : p '\r' = false) (hn : p '\n' = false) (s : List Char) :
    runs p (withReturns s) = runs p s := by
  induction s with
  | nil => rfl
  | cons c s ih =>
    by_cases hc : c = '\n'
    · simp [hc, runs, hr, hn, ih]
    · rw [withReturns_cons_of_ne hc]
      cases hp : p c with
      | false => simp [runs, hp, ih]
      | true =>
        rw [runs_cons_of_pos hp, runs_cons_of_pos hp, ih,
          any_head_withReturns (hr.trans hn.symm)]

end Tests

theorem words_withReturns (s : List Char) : words (withReturns s) = words s :=
  runs_withReturns (by decide) (by decide) s

theorem dropHead?_withReturns {head : List Char} (hr : '\r' ∉ head) (hn : '\n' ∉ head)
    (s : List Char) :
    dropHead? head (withReturns s) = (dropHead? head s).map withReturns := by
  induction head generalizing s with
  | nil => rfl
  | cons h head ih =>
    simp only [List.mem_cons, not_or] at hr hn
    cases s with
    | nil => rfl
    | cons c s =>
      by_cases hc : c = '\n'
      · simp [hc, dropHead?, Ne.symm hr.1, Ne.symm hn.1]
      · by_cases heq : h = c
        · simp [withReturns_cons_of_ne hc, dropHead?, heq, ih hr.2 hn.2]
        · simp [withReturns_cons_of_ne hc, dropHead?, heq]

theorem double_withReturns {q : Char} (hr : q ≠ '\r') (hn : q ≠ '\n') (s : List Char) :
    double q (withReturns s) = withReturns (double q s) := by
  induction s with
  | nil => rfl
  | cons c s ih =>
    by_cases hc : c = '\n'
    · rw [hc, withReturns_feed, double_cons_of_ne (Ne.symm hr), double_cons_of_ne (Ne.symm hn),
        double_cons_of_ne (Ne.symm hn), withReturns_feed, ih]
    · by_cases hq : c = q
      · rw [withReturns_cons_of_ne hc, hq, double_cons_self, double_cons_self,
          withReturns_cons_of_ne hn, withReturns_cons_of_ne hn, ih]
      · rw [withReturns_cons_of_ne hc, double_cons_of_ne hq, double_cons_of_ne hq,
          withReturns_cons_of_ne hc, ih]

theorem quoteText_withReturns (s : String) :
    Quoted.quoteText (withReturnsText s) = withReturnsText (Quoted.quoteText s) := by
  rw [← String.toList_inj]
  simp [Quoted.quoteText, Quoted.quote, double_withReturns, withReturns_cons_of_ne]

end TableForge.Text
