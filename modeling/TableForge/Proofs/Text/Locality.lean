import TableForge.Proofs.Text.Cleaning
import TableForge.Proofs.Text.Occurrence

-- Markers are removed from the parts of a text as if each part stood alone.
namespace TableForge.Marker

theorem removePass_cons_of_not_begins {c : Char} {rest : List Char} (h : ¬marker <+: c :: rest) :
    removePass (c :: rest) = c :: removePass rest := by
  rw [removePass.eq_def]
  split
  · rename_i more heq
    exact absurd (heq ▸ List.prefix_append marker more) h
  · rename_i heq
    obtain ⟨rfl, rfl⟩ := List.cons.inj heq
    rfl
  · rename_i heq
    cases heq

theorem removePass_eq_self {s : List Char} (h : ¬marker <:+: s) : removePass s = s := by
  induction s with
  | nil => rfl
  | cons c s ih =>
    rw [List.infix_cons_iff, not_or] at h
    rw [removePass_cons_of_not_begins h.1, ih h.2]

-- More passes than those that find a marker do nothing.
theorem removePasses_eq_iterate (n : Nat) (s : List Char) :
    removePasses n s = removePass^[n] s := by
  induction n generalizing s with
  | zero => rfl
  | succ n ih =>
    rw [removePasses, Function.iterate_succ_apply]
    split
    · exact ih (removePass s)
    · rename_i hfree
      have hpass : removePass s = s := removePass_eq_self (occursIn_iff.not.mp hfree)
      rw [hpass, Function.iterate_fixed hpass]

theorem iterate_removePass_eq_clean {n : Nat} {s : List Char} (h : s.length ≤ n) :
    removePass^[n] s = clean s := by
  obtain ⟨more, rfl⟩ := Nat.exists_eq_add_of_le' h
  have hclean : removePass^[s.length] s = clean s := (removePasses_eq_iterate _ _).symm
  rw [Function.iterate_add_apply, hclean,
    Function.iterate_fixed (removePass_eq_self (not_infix_clean s))]

section Separator

variable {c : Char}

theorem removePass_append_cons (hc : c ∉ marker) (a b : List Char) :
    removePass (a ++ c :: b) = removePass a ++ c :: removePass b := by
  fun_induction removePass a with
  | case1 rest ih => exact ih
  | case2 d rest hstart ih =>
    have hfree : ¬marker <+: d :: rest := by
      rintro ⟨more, hmore⟩
      obtain ⟨rfl, rfl⟩ := List.cons.inj hmore
      exact hstart more rfl rfl
    have hfree' : ¬marker <+: d :: (rest ++ c :: b) :=
      (prefix_append_cons_iff (s := d :: rest) hc).not.mpr hfree
    rw [List.cons_append, removePass_cons_of_not_begins hfree', ih, List.cons_append]
  | case3 =>
    have hfree : ¬marker <+: c :: b := by
      rintro ⟨more, hmore⟩
      exact hc ((List.cons.inj hmore).1 ▸ List.mem_cons_self)
    rw [List.nil_append, removePass_cons_of_not_begins hfree, List.nil_append]

theorem iterate_removePass_append_cons (hc : c ∉ marker) (n : Nat) (a b : List Char) :
    removePass^[n] (a ++ c :: b) = removePass^[n] a ++ c :: removePass^[n] b := by
  induction n generalizing a b with
  | zero => rfl
  | succ n ih => simp only [Function.iterate_succ_apply, removePass_append_cons hc, ih]

-- A character that no marker has keeps its two sides apart, however many passes each of them needs.
theorem clean_append_cons (hc : c ∉ marker) (a b : List Char) :
    clean (a ++ c :: b) = clean a ++ c :: clean b := by
  have hlength : (a ++ c :: b).length = a.length + (b.length + 1) := by simp
  rw [← iterate_removePass_eq_clean (Nat.le_refl (a ++ c :: b).length),
    iterate_removePass_append_cons hc, iterate_removePass_eq_clean (by omega),
    iterate_removePass_eq_clean (by omega)]

theorem clean_cons (hc : c ∉ marker) (s : List Char) : clean (c :: s) = c :: clean s :=
  clean_append_cons hc [] s

end Separator

-- Deleting markers leaves characters out and changes nothing else.
theorem sublist_of_deletes {s t : List Char} (h : Relation.ReflTransGen Deletes s t) :
    t.Sublist s := by
  induction h with
  | refl => exact .refl s
  | tail _ hstep ih =>
    obtain ⟨front, back⟩ := hstep
    refine .trans ?_ ih
    rw [List.append_assoc]
    exact (List.sublist_append_right marker back).append_left front

-- A doubled quote is two characters that no marker has.
theorem clean_double (s : List Char) :
    clean (Text.double '\'' s) = Text.double '\'' (clean s) := by
  have hquote : '\'' ∉ marker := by decide
  by_cases hs : '\'' ∈ s
  · obtain ⟨a, b, rfl, ha⟩ := List.eq_append_cons_of_mem hs
    rw [Text.double_append, Text.double_cons_self, clean_append_cons hquote, clean_cons hquote,
      clean_double a, clean_double b, clean_append_cons hquote, Text.double_append,
      Text.double_cons_self]
  · have hclean : '\'' ∉ clean s := fun h => hs ((sublist_of_deletes (deletes_clean s)).subset h)
    rw [Text.double_eq_self hs, Text.double_eq_self hclean]
termination_by s.length
decreasing_by
  all_goals
    subst_vars
    simp only [List.length_append, List.length_cons]
    omega

-- A quoted literal keeps its quotes, and its content is cleaned.
theorem clean_quote (s : List Char) :
    clean (Text.Quoted.quote s) = Text.Quoted.quote (clean s) := by
  have hquote : '\'' ∉ marker := by decide
  rw [Text.Quoted.quote, List.cons_append, clean_cons hquote, clean_append_cons hquote,
    clean_double]
  rfl

end TableForge.Marker
