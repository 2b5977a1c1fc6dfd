import TableForge.Text.Blank

-- Maximal runs of the characters that satisfy a test.
namespace TableForge.Text

variable {p : Char → Bool}

-- A character in a run is put in front of the run that begins behind it, if there is one.
theorem runs_cons_of_pos {c : Char} (hc : p c = true) (s : List Char) :
    runs p (c :: s) =
      if s.head?.any p then (c :: (runs p s).headD []) :: (runs p s).tail
      else [c] :: runs p s := by
  cases s with
  | nil => simp [runs, hc]
  | cons d s =>
    rw [runs.eq_def]
    simp only [hc, if_true]
    cases runs p (d :: s) with
    | nil => simp
    | cons run others => simp

theorem runs_cons_of_neg {c : Char} (hc : p c = false) (s : List Char) :
    runs p (c :: s) = runs p s := by
  simp [runs, hc]

theorem runs_ne_nil {s : List Char} (h : s.head?.any p = true) : runs p s ≠ [] := by
  cases s with
  | nil => cases h
  | cons c s =>
    rw [runs_cons_of_pos h]
    split
    · exact List.cons_ne_nil _ _
    · exact List.cons_ne_nil _ _

-- No run goes across a place that has no character of a run on one of its sides.
theorem runs_append {s t : List Char} (h : (s.getLast?.any p && t.head?.any p) = false) :
    runs p (s ++ t) = runs p s ++ runs p t := by
  induction s with
  | nil => rfl
  | cons c s ih =>
    have hcut : (s.getLast?.any p && t.head?.any p) = false := by
      cases s with
      | nil => rfl
      | cons d s => rwa [List.getLast?_cons_cons] at h
    have ih := ih hcut
    cases hc : p c with
    | false => rw [List.cons_append, runs_cons_of_neg hc, runs_cons_of_neg hc, ih]
    | true =>
      rw [List.cons_append, runs_cons_of_pos hc, runs_cons_of_pos hc, ih]
      cases s with
      | nil =>
        have hnext : t.head?.any p = false := by simpa [hc] using h
        simp [hnext, runs]
      | cons d s =>
        cases hd : p d with
        | false => simp [hd]
        | true =>
          have hnext : (d :: s).head?.any p = true := by simpa using hd
          obtain ⟨run, others, hruns⟩ := List.exists_cons_of_ne_nil (runs_ne_nil hnext)
          simp [hd, hruns]

-- Runs end at a character that is in none.
theorem runs_append_cons {c : Char} (hc : p c = false) (s t : List Char) :
    runs p (s ++ c :: t) = runs p s ++ runs p t := by
  rw [runs_append (by simp [hc]), runs_cons_of_neg hc]

theorem runs_ne_nil_of_mem {s : List Char} {c : Char} (hmem : c ∈ s) (hc : p c = true) :
    runs p s ≠ [] := by
  induction s with
  | nil => cases hmem
  | cons d s ih =>
    cases hd : p d with
    | true => exact runs_ne_nil (by simpa using hd)
    | false =>
      rw [runs_cons_of_neg hd]
      refine ih ((List.mem_cons.mp hmem).resolve_left ?_)
      rintro rfl
      exact absurd hc (by simp [hd])

theorem runs_eq_nil {s : List Char} (h : ∀ c ∈ s, p c = false) : runs p s = [] := by
  induction s with
  | nil => rfl
  | cons c s ih =>
    obtain ⟨hc, hs⟩ := List.forall_mem_cons.mp h
    rw [runs_cons_of_neg hc, ih hs]

theorem runs_eq_singleton {s : List Char} (hne : s ≠ []) (h : ∀ c ∈ s, p c = true) :
    runs p s = [s] := by
  induction s with
  | nil => exact absurd rfl hne
  | cons c s ih =>
    obtain ⟨hc, hs⟩ := List.forall_mem_cons.mp h
    rw [runs_cons_of_pos hc]
    cases s with
    | nil => rfl
    | cons d s => simp [ih (List.cons_ne_nil d s) hs, hs]

end TableForge.Text
