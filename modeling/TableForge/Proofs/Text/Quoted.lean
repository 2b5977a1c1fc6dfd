import TableForge.Text.Quoted

namespace TableForge.Text

@[simp] theorem double_nil (q : Char) : double q [] = [] := rfl

theorem double_cons_self (q : Char) (s : List Char) : double q (q :: s) = q :: q :: double q s := by
  simp [double]

theorem double_cons_of_ne {q c : Char} (h : c ≠ q) (s : List Char) :
    double q (c :: s) = c :: double q s := by
  simp [double, h]

@[simp] theorem double_append (q : Char) (s t : List Char) :
    double q (s ++ t) = double q s ++ double q t := by
  simp [double]

theorem double_eq_self {q : Char} {s : List Char} (h : q ∉ s) : double q s = s := by
  induction s with
  | nil => rfl
  | cons c s ih =>
    simp only [List.mem_cons, not_or] at h
    rw [double_cons_of_ne (Ne.symm h.1), ih h.2]

theorem mem_double {q c : Char} {s : List Char} : c ∈ double q s ↔ c ∈ s := by
  simp only [double, List.mem_flatMap]
  constructor
  · rintro ⟨d, hd, hc⟩
    split at hc <;> simp_all
  · intro hc
    exact ⟨c, hc, by split <;> simp_all⟩

namespace Quoted

-- Reading undoes the doubling up to the first quote that has no second one.
theorem readBody_double {s rest : List Char} (h : rest.head? ≠ some '\'') :
    readBody (double '\'' s ++ '\'' :: rest) = some (s, rest) := by
  induction s with
  | nil =>
    cases rest with
    | nil => rfl
    | cons c rest =>
      have hc : c ≠ '\'' := by simpa using h
      simp [readBody, hc]
  | cons c s ih =>
    by_cases hc : c = '\''
    · subst c
      rw [double_cons_self, List.cons_append, List.cons_append, readBody, ih]
      rfl
    · simp [double_cons_of_ne hc, readBody, hc, ih]

-- What has been read is the doubled content with a quote behind it.
theorem eq_of_readBody {u s rest : List Char} (h : readBody u = some (s, rest)) :
    u = double '\'' s ++ '\'' :: rest := by
  fun_induction readBody u generalizing s with
  | case1 => simp at h
  | case2 u ih =>
    obtain ⟨⟨t, after⟩, ht, heq⟩ := Option.map_eq_some_iff.mp h
    obtain ⟨rfl, rfl⟩ := Prod.mk.inj heq
    rw [double_cons_self, ih ht]
    rfl
  | case3 u _ =>
    obtain ⟨rfl, rfl⟩ := Prod.mk.inj (Option.some.inj h)
    rfl
  | case4 c u _ hc ih =>
    obtain ⟨⟨t, after⟩, ht, heq⟩ := Option.map_eq_some_iff.mp h
    obtain ⟨rfl, rfl⟩ := Prod.mk.inj heq
    rw [double_cons_of_ne hc, ih ht]
    rfl

-- A text with spare quotes in front of its doubled form ends with one.
theorem head_of_append_eq {n : Nat} {s rest after : List Char}
    (h : s ++ '\'' :: rest = List.replicate (n + 1) '\'' ++ (double '\'' s ++ '\'' :: after)) :
    rest.head? = some '\'' := by
  induction s generalizing n with
  | nil =>
    cases n with
    | zero => simp_all
    | succ n =>
      simp only [List.replicate_succ, List.nil_append, List.cons_append, List.cons.injEq] at h
      simp [h.2]
  | cons c s ih =>
    simp only [List.replicate_succ, List.cons_append, List.cons.injEq] at h
    obtain ⟨rfl, h⟩ := h
    apply ih (n := n + 1)
    rw [h, double_cons_self, List.replicate_succ', List.replicate_succ']
    simp

-- A text that stands between quotes as it is reads back only if it has no quotes.
theorem not_mem_of_readBody {s rest after : List Char} (hrest : rest.head? ≠ some '\'')
    (h : readBody (s ++ '\'' :: rest) = some (s, after)) : '\'' ∉ s := by
  replace h := eq_of_readBody h
  induction s with
  | nil => simp
  | cons c s ih =>
    by_cases hc : c = '\''
    · subst c
      rw [double_cons_self] at h
      simp only [List.cons_append, List.cons.injEq, true_and] at h
      exact absurd (head_of_append_eq (n := 0) h) hrest
    · rw [double_cons_of_ne hc] at h
      simp only [List.cons_append, List.cons.injEq, true_and] at h
      simpa [Ne.symm hc] using ih h

end Quoted

end TableForge.Text
