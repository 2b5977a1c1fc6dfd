import TableForge.Text.Replace

-- Lists with a separator between neighbours, and texts that are joined in this way.
namespace TableForge

section Intercalate

variable {α β : Type} {separator : List α} {items : List (List α)}

theorem forall_mem_intercalate {P : α → Prop} (hseparator : ∀ a ∈ separator, P a) :
    (∀ a ∈ separator.intercalate items, P a) ↔ ∀ item ∈ items, ∀ a ∈ item, P a := by
  induction items with
  | nil => simp [List.intercalate_nil]
  | cons item rest ih =>
    cases rest with
    | nil => simp [List.intercalate_singleton]
    | cons next rest =>
      rw [List.intercalate_cons_cons, List.append_assoc, List.forall_mem_append,
        List.forall_mem_append, ih, and_iff_right hseparator, List.forall_mem_cons (a := item)]

theorem flatMap_intercalate (f : α → List β) :
    (separator.intercalate items).flatMap f =
      (separator.flatMap f).intercalate (items.map fun item => item.flatMap f) := by
  induction items with
  | nil => rfl
  | cons item rest ih =>
    cases rest with
    | nil => simp [List.intercalate_singleton]
    | cons next rest =>
      simp only [List.map_cons, List.intercalate_cons_cons, List.flatMap_append] at ih ⊢
      rw [ih]

end Intercalate

theorem Text.toList_join (separator : String) (texts : List String) :
    (join separator texts).toList = separator.toList.intercalate (texts.map String.toList) := by
  fun_induction join separator texts with
  | case1 => rfl
  | case2 s => simp [List.intercalate_singleton]
  | case3 s rest hrest ih =>
    have hne : rest.map String.toList ≠ [] := by simpa using hrest
    rw [List.map_cons, List.intercalate_cons_of_ne_nil hne, String.toList_append,
      String.toList_append, ih]

-- Texts with a separator in front of each of them.
theorem Text.toList_append_join {separator : String} {texts : List String} (h : texts ≠ []) :
    (separator ++ join separator texts).toList =
      texts.flatMap fun s => separator.toList ++ s.toList := by
  induction texts with
  | nil => exact absurd rfl h
  | cons s rest ih =>
    cases rest with
    | nil => simp [join]
    | cons next rest =>
      rw [List.flatMap_cons, ← ih (List.cons_ne_nil _ _)]
      simp only [join, String.toList_append, List.append_assoc]

end TableForge
