import TableForge.Text.Ascii
import TableForge.Text.Lines
import Mathlib.Data.List.DropRight

namespace TableForge.Text

theorem toList_unlines (lines : List String) :
    (unlines lines).toList = lines.flatMap fun line => line.toList ++ ['\n'] := by
  induction lines with
  | nil => rfl
  | cons line rest ih => simp [unlines, ih]

-- What stands in a line behind `head` and in front of `tail`, when it begins and ends with these.
def between? (head tail line : String) : Option String := do
  let rest ← dropHead? head.toList line.toList
  let reversed ← dropHead? tail.toList.reverse rest.reverse
  return String.ofList reversed.reverse

theorem between?_eq_some_iff {head tail line inner : String} :
    between? head tail line = some inner ↔ line = head ++ inner ++ tail := by
  simp only [between?, Option.bind_eq_bind, Option.bind_eq_some_iff, dropHead?_eq_some_iff]
  constructor
  · rintro ⟨rest, hrest, reversed, hreversed, h⟩
    obtain rfl : String.ofList reversed.reverse = inner := Option.some.inj h
    rw [← String.toList_inj, hrest, ← List.reverse_reverse rest, hreversed]
    simp
  · rintro rfl
    exact ⟨(inner ++ tail).toList, by simp, inner.toList.reverse, by simp,
      congrArg some (by simp)⟩

-- A line that begins otherwise, or ends otherwise, has no such part.
theorem between?_eq_none_of_head {head tail line : String} (hhead : head ≠ "")
    (h : line.toList.head? ≠ head.toList.head?) : between? head tail line = none := by
  rw [Option.eq_none_iff_forall_ne_some]
  intro inner hinner
  rw [between?_eq_some_iff] at hinner
  apply h
  have hne : head.toList ≠ [] := by simpa using hhead
  rw [hinner, String.toList_append, String.toList_append, List.append_assoc,
    List.head?_append_of_ne_nil _ hne]

theorem between?_eq_none_of_tail {head tail front back : String} {c d : Char}
    (hback : back.toList.getLast? = some c) (htail : tail.toList.getLast? = some d) (h : c ≠ d) :
    between? head tail (front ++ back) = none := by
  rw [Option.eq_none_iff_forall_ne_some]
  intro inner hinner
  rw [between?_eq_some_iff] at hinner
  have hlast := congrArg (fun s : String => s.toList.getLast?) hinner
  simp only [String.toList_append, List.getLast?_append, hback, htail] at hlast
  exact h (Option.some.inj hlast)

-- A text that ends with a word behind a stop: the part in front of the stop, and the word.
def lastWord? (p : Char → Bool) (stop s : String) : Option (String × String) := do
  let front ← between? "" stop (String.ofList (s.toList.rdropWhile p))
  return (front, String.ofList (s.toList.rtakeWhile p))

theorem lastWord?_append {p : Char → Bool} {front stop word : String} {c : Char}
    (hword : word.toList.all p) (hstop : stop.toList.getLast? = some c)
    (hlast : p c = false) : lastWord? p stop (front ++ stop ++ word) = some (front, word) := by
  have hreverse : ∀ d ∈ word.toList.reverse, p d = true := by simpa using hword
  obtain ⟨initial, hinitial⟩ := List.getLast?_eq_some_iff.mp hstop
  have htake : (front ++ stop ++ word).toList.rtakeWhile p = word.toList := by
    simp [List.rtakeWhile, hinitial, List.takeWhile_append_of_pos hreverse, hlast]
  have hdrop : (front ++ stop ++ word).toList.rdropWhile p = (front ++ stop).toList := by
    simp [List.rdropWhile, hinitial, List.dropWhile_append_of_pos hreverse, hlast]
  have hfront : between? "" stop (front ++ stop) = some front :=
    between?_eq_some_iff.mpr (by rw [String.empty_append])
  rw [lastWord?, htake, hdrop, String.ofList_toList, String.ofList_toList, hfront]
  rfl

-- What ends with a word is made of these parts.
theorem of_lastWord? {p : Char → Bool} {stop s front word : String}
    (h : lastWord? p stop s = some (front, word)) :
    s = front ++ stop ++ word ∧ ∀ c ∈ word.toList, p c = true := by
  obtain ⟨found, hfound, h⟩ := Option.bind_eq_some_iff.mp h
  obtain ⟨rfl, rfl⟩ := Prod.mk.inj (Option.some.inj h)
  rw [between?_eq_some_iff, String.empty_append] at hfound
  constructor
  · rw [← hfound, ← String.ofList_append, List.rdropWhile, List.rtakeWhile, ← List.reverse_append,
      List.takeWhile_append_dropWhile, List.reverse_reverse, String.ofList_toList]
  · intro c hc
    rw [String.toList_ofList] at hc
    exact List.mem_rtakeWhile_imp hc

-- The lines of a text behind a part of its first line. Without a line feed at the end the last
-- line is what is left.
def linesFrom (line : List Char) : List Char → List String
  | [] => if line = [] then [] else [String.ofList line]
  | c :: rest =>
    if c = '\n' then String.ofList line :: linesFrom [] rest else linesFrom (line ++ [c]) rest

def linesOf (s : String) : List String := linesFrom [] s.toList

theorem linesFrom_append {line more : List Char} (rest : List Char) (h : '\n' ∉ more) :
    linesFrom line (more ++ '\n' :: rest) = String.ofList (line ++ more) :: linesFrom [] rest := by
  induction more generalizing line with
  | nil => simp [linesFrom]
  | cons c more ih =>
    simp only [List.mem_cons, not_or] at h
    rw [List.cons_append, linesFrom, if_neg (Ne.symm h.1), ih h.2, List.append_assoc]
    rfl

-- Lines that are put together are found again, also in front of others.
theorem linesOf_unlines_append {front : List String} (rest : List String)
    (h : ∀ line ∈ front, '\n' ∉ line.toList) :
    linesOf (unlines (front ++ rest)) = front ++ linesOf (unlines rest) := by
  induction front with
  | nil => rfl
  | cons line front ih =>
    obtain ⟨hline, hfront⟩ := List.forall_mem_cons.mp h
    have htext : (unlines (line :: front ++ rest)).toList =
        line.toList ++ '\n' :: (unlines (front ++ rest)).toList := by
      simp [unlines]
    rw [linesOf, htext, linesFrom_append _ hline, List.nil_append, String.ofList_toList,
      List.cons_append, ← ih hfront]
    rfl

theorem linesOf_unlines {lines : List String} (h : ∀ line ∈ lines, '\n' ∉ line.toList) :
    linesOf (unlines lines) = lines := by
  have hlines := linesOf_unlines_append [] h
  rw [List.append_nil] at hlines
  exact hlines.trans (List.append_nil lines)

theorem linesFrom_feed (line s rest : List Char) :
    linesFrom line (s ++ '\n' :: rest) = linesFrom line (s ++ ['\n']) ++ linesFrom [] rest := by
  induction s generalizing line with
  | nil => rfl
  | cons c s ih =>
    simp only [List.cons_append, linesFrom]
    split
    · rw [ih, List.cons_append]
    · exact ih _

-- Lines that are put together are found again behind any text that ends with a line feed.
theorem linesOf_append_unlines {s : String} {front : List Char} {lines : List String}
    (hs : s.toList = front ++ ['\n']) (h : ∀ line ∈ lines, '\n' ∉ line.toList) :
    linesOf (s ++ unlines lines) = linesOf s ++ lines := by
  have hfeed := linesFrom_feed [] front (unlines lines).toList
  have hlines : linesFrom [] (unlines lines).toList = lines := linesOf_unlines h
  rw [linesOf, linesOf, String.toList_append, hs, List.append_assoc, List.singleton_append, hfeed,
    hlines]

theorem unlines_append (front back : List String) :
    unlines (front ++ back) = unlines front ++ unlines back := by
  induction front with
  | nil => simp [unlines]
  | cons line front ih => simp only [List.cons_append, unlines, ih, String.append_assoc]

theorem toList_unlines_concat (lines : List String) (line : String) :
    (unlines (lines ++ [line])).toList = (unlines lines).toList ++ line.toList ++ ['\n'] := by
  simp [toList_unlines]

-- The lines behind the last one that is as given.
def behindLast? (mark : String) (lines : List String) : Option (List String) :=
  if mark ∈ lines then some (lines.rtakeWhile (· ≠ mark)) else none

theorem behindLast?_append {mark : String} {back : List String} (front : List String)
    (h : mark ∉ back) : behindLast? mark (front ++ mark :: back) = some back := by
  have hback : ∀ line ∈ back.reverse, decide (line ≠ mark) = true := by
    intro line hline
    refine decide_eq_true ?_
    rintro rfl
    exact h (List.mem_reverse.mp hline)
  rw [behindLast?, if_pos (by simp), List.rtakeWhile, List.reverse_append, List.reverse_cons,
    List.append_assoc, List.takeWhile_append_of_pos hback]
  simp

-- The lines between an opening brace on the first line and the line that closes it.
def blockOf? (last : String) : List String → Option (List String)
  | first :: rest =>
    if first = "\x7b" ∧ last ∈ rest then some (rest.takeWhile (· ≠ last)) else none
  | [] => none

theorem blockOf?_append {last : String} {body : List String} (h : last ∉ body)
    (rest : List String) : blockOf? last ("\x7b" :: (body ++ last :: rest)) = some body := by
  have hbody : ∀ line ∈ body, decide (line ≠ last) = true := by
    intro line hline
    refine decide_eq_true ?_
    rintro rfl
    exact h hline
  rw [blockOf?, if_pos ⟨rfl, by simp⟩, List.takeWhile_append_of_pos hbody]
  simp

-- A line that is empty or begins with one of these characters.
def Begins (starts : List Char) (line : String) : Prop := ∀ c ∈ line.toList.head?, c ∈ starts

instance (starts : List Char) (line : String) : Decidable (Begins starts line) :=
  Option.decidableForallMem line.toList.head?

theorem begins_append {starts : List Char} {front back : String} (hne : front ≠ "") :
    Begins starts (front ++ back) ↔ Begins starts front := by
  have hfront : front.toList ≠ [] := by simpa using hne
  rw [Begins, Begins, String.toList_append, List.head?_append_of_ne_nil _ hfront]

theorem not_mem_of_begins {starts : List Char} {mark : String} {lines : List String}
    (h : ∀ line ∈ lines, Begins starts line) (hmark : ¬Begins starts mark) : mark ∉ lines :=
  fun hmem => hmark (h mark hmem)

end TableForge.Text
