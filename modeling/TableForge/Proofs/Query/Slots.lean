import TableForge.Proofs.Query.Format
import Mathlib.Data.Set.List

-- The values of an insertion as a format: its slots, and what texts make of it.
namespace TableForge.SeedInsert

-- How many slots a format has. Of two percent signs neither begins one.
def slots : List Char → Nat
  | '%' :: '%' :: rest => slots rest
  | '%' :: 's' :: rest => slots rest + 1
  | _ :: rest => slots rest
  | [] => 0

-- Only as many texts as there are slots fill a format.
theorem slots_of_expand {format shown : List Char} {texts : List (List Char)}
    (h : expand format texts = some shown) : slots format = texts.length := by
  fun_induction expand format texts generalizing shown with
  | case1 => rfl
  | case2 => cases h
  | case3 rest texts ih =>
    obtain ⟨_, hrest, -⟩ := Option.map_eq_some_iff.mp h
    rw [slots, ih hrest]
  | case4 rest s texts ih =>
    obtain ⟨_, hrest, -⟩ := Option.map_eq_some_iff.mp h
    rw [slots, ih hrest, List.length_cons]
  | case5 => cases h
  | case6 c rest texts _ _ hc ih =>
    obtain ⟨_, hrest, -⟩ := Option.map_eq_some_iff.mp h
    rw [← ih hrest, slots]
    · simp [hc]
    · simp [hc]

-- What stands in a list of values for its literals: for a plain one its token, and for the one
-- behind `n` wrapped literals, if it is wrapped as well, the text at `n` between quotes.
structure Shows (ls : List Literal) (texts items : List (List Char)) : Prop where
  length : items.length = ls.length
  plain : ∀ (i : Nat) (token : String), ls[i]? = some (.plain token) →
    items[i]? = some token.toList
  wrapped : ∀ (i : Nat) (l : Literal), ls[i]? = some l → l.isWrapped →
    ∃ s, texts[(ls.take i).countP Literal.isWrapped]? = some s ∧
      items[i]? = some ('\'' :: s ++ ['\''])

theorem Shows.cons_plain {ls : List Literal} {texts items : List (List Char)}
    (h : Shows ls texts items) (token : String) :
    Shows (.plain token :: ls) texts (token.toList :: items) where
  length := congrArg (· + 1) h.length
  plain := by
    rintro (_ | i) first hfirst
    · obtain ⟨rfl⟩ := hfirst
      rfl
    · exact h.plain i first hfirst
  wrapped := by
    rintro (_ | i) l hl hwrapped
    · obtain ⟨rfl⟩ := hl
      cases hwrapped
    · exact h.wrapped i l hl hwrapped

theorem Shows.cons_wrapped {ls : List Literal} {texts items : List (List Char)}
    (h : Shows ls texts items) {l : Literal} (hl : l.isWrapped) (s : List Char) :
    Shows (l :: ls) (s :: texts) (('\'' :: s ++ ['\'']) :: items) where
  length := congrArg (· + 1) h.length
  plain := by
    rintro (_ | i) token htoken
    · obtain ⟨rfl⟩ := htoken
      cases hl
    · exact h.plain i token htoken
  wrapped := by
    rintro (_ | i) k hk hwrapped
    · exact ⟨s, rfl, rfl⟩
    · obtain ⟨r, hr, hitem⟩ := h.wrapped i k hk hwrapped
      refine ⟨r, ?_, hitem⟩
      rw [List.take_succ_cons, List.countP_cons_of_pos hl, List.getElem?_cons_succ, hr]

theorem shows_filled {ls : List Literal} {texts : List (List Char)}
    (h : texts.length = ls.countP Literal.isWrapped) : Shows ls texts (filled ls texts) := by
  induction ls generalizing texts with
  | nil => exact ⟨rfl, by simp, by simp⟩
  | cons l ls ih =>
    by_cases hl : l.isWrapped
    · rw [List.countP_cons_of_pos hl] at h
      obtain ⟨s, rest, rfl⟩ := List.exists_cons_of_length_eq_add_one h
      rw [List.length_cons, Nat.add_right_cancel_iff] at h
      rw [filled_wrapped hl]
      exact (ih h).cons_wrapped hl s
    · rw [List.countP_cons_of_neg hl] at h
      obtain ⟨token, rfl⟩ := Literal.exists_plain hl
      exact (ih h).cons_plain token

theorem length_arguments (s : SeedInsert) :
    s.arguments.length = s.literals.countP Literal.isWrapped := by
  have hsome : ∀ l : Literal, l.argument?.isSome = l.isWrapped := by
    intro l
    cases l <;> rfl
  rw [arguments, List.length_filterMap_eq_countP]
  simp only [hsome]

-- The values of an insertion with a wrapped literal are a format with a slot for each argument.
-- Whatever the texts for its slots are, each of them stands between quotes in the place of its
-- literal, and the plain tokens are as they were. Without a wrapped literal the values are the
-- tokens, and there are no arguments.
theorem value_list_fits (s : SeedInsert) :
    ∃ values : List Char,
      s.text.toList =
        "INSERT INTO ".toList ++ s.table.toList ++ " VALUES (".toList ++ values ++ ")".toList ∧
      ((∃ l ∈ s.literals, l.isWrapped) →
        slots values = s.arguments.length ∧
        ∀ texts : List (List Char), texts.length = s.arguments.length →
          ∃ items, expand values texts = some (", ".toList.intercalate items) ∧
            Shows s.literals texts items) ∧
      ((∀ l ∈ s.literals, ¬l.isWrapped) →
        ∃ tokens : List String, s.literals = tokens.map .plain ∧
          values = ", ".toList.intercalate (tokens.map String.toList) ∧ s.arguments = []) := by
  refine ⟨s.valueList.toList, ?_, ?_, ?_⟩
  · simp only [text, String.toList_append, List.append_assoc]
  · intro hwrapped
    have hformatted : s.isFormatted = true := List.any_eq_true.mpr hwrapped
    have hvalues : s.valueList.toList =
        ", ".toList.intercalate (s.literals.map fun l => (slot true l).toList) := by
      rw [valueList, Text.toList_join, hformatted, List.map_map]
      rfl
    have hexpand {texts : List (List Char)} (h : texts.length = s.arguments.length) :
        expand s.valueList.toList texts =
          some (", ".toList.intercalate (filled s.literals texts)) := by
      have hlist := expands_list (h.trans s.length_arguments) [] []
      rw [← hvalues] at hlist
      simpa [expand] using hlist
    constructor
    · have hsome := hexpand (List.length_replicate (a := []))
      rw [slots_of_expand hsome, List.length_replicate]
    · exact fun texts h => ⟨_, hexpand h, shows_filled (h.trans s.length_arguments)⟩
  · intro hplain
    have hrange : s.literals ∈ Set.range (List.map Literal.plain) := by
      rw [Set.range_list_map]
      intro l hl
      obtain ⟨token, rfl⟩ := Literal.exists_plain (hplain l hl)
      exact ⟨token, rfl⟩
    obtain ⟨tokens, htokens⟩ := hrange
    have hformatted : s.isFormatted = false := by
      rw [isFormatted, List.any_eq_false]
      exact hplain
    refine ⟨tokens, htokens.symm, ?_, ?_⟩
    · rw [valueList, Text.toList_join, hformatted, ← htokens]
      simp [slot, Function.comp_def]
    · simp [arguments, ← htokens, Literal.argument?]

-- Tokens with percent signs among two wrapped literals.
theorem value_list_fits_of_percent :
    let s : SeedInsert := ⟨"T", [.plain "'5%'", .wide "€", .plain "'%s%%'", .localized "Euro"]⟩
    ∃ values, s.text.toList = "INSERT INTO T VALUES (".toList ++ values ++ [')'] ∧
      slots values = 2 ∧
      expand values ["%".toList, "s".toList] = some "'5%', '%', '%s%%', 's'".toList := by
  intro s
  obtain ⟨values, htext, hwrapped, -⟩ := value_list_fits s
  obtain ⟨hslots, hexpand⟩ := hwrapped ⟨.wide "€", by simp [s], rfl⟩
  obtain ⟨items, hitems, hshows⟩ := hexpand ["%".toList, "s".toList] rfl
  obtain ⟨_, ⟨rfl⟩, hsecond⟩ := hshows.wrapped 1 (.wide "€") rfl rfl
  obtain ⟨_, ⟨rfl⟩, hfourth⟩ := hshows.wrapped 3 (.localized "Euro") rfl rfl
  have hfirst := hshows.plain 0 "'5%'" rfl
  have hthird := hshows.plain 2 "'%s%%'" rfl
  match items, hshows.length with
  | [a, b, c, d], _ =>
    obtain ⟨rfl⟩ := hfirst
    obtain ⟨rfl⟩ := hsecond
    obtain ⟨rfl⟩ := hthird
    obtain ⟨rfl⟩ := hfourth
    exact ⟨values, by simpa [s] using htext, hslots, hitems⟩

end TableForge.SeedInsert
