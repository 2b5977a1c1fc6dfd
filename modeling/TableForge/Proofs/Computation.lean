import Mathlib.Data.List.Forall2

-- What a computation of several steps that has succeeded tells about its steps.
namespace TableForge

variable {α β ε : Type}

-- A computation with two steps succeeds when both do.
theorem ok_of_bind {x : Except ε α} {f : α → Except ε β} {b : β} (h : x >>= f = .ok b) :
    ∃ a, x = .ok a ∧ f a = .ok b := by
  cases x with
  | error e => simp [bind, Except.bind] at h
  | ok a => exact ⟨a, rfl, h⟩

theorem bind_eq_ok_iff {x : Except ε α} {f : α → Except ε β} {b : β} :
    x >>= f = .ok b ↔ ∃ a, x = .ok a ∧ f a = .ok b := by
  refine ⟨ok_of_bind, ?_⟩
  rintro ⟨a, rfl, h⟩
  exact h

-- It fails with the error of the first step that fails.
theorem bind_eq_error_iff {x : Except ε α} {f : α → Except ε β} {e : ε} :
    x >>= f = .error e ↔ x = .error e ∨ ∃ a, x = .ok a ∧ f a = .error e := by
  cases x with
  | error e' => simp [bind, Except.bind]
  | ok a => simp [bind, Except.bind]

theorem eq_ok_of_toOption {x : Except ε α} {a : α} (h : x.toOption = some a) : x = .ok a := by
  cases x with
  | error e => simp [Except.toOption] at h
  | ok b => rw [Option.some.inj h]

theorem forall₂_of_mapM_ok {f : α → Except ε β} {l : List α} {found : List β}
    (h : l.mapM f = .ok found) : List.Forall₂ (fun a b => f a = .ok b) l found := by
  induction l generalizing found with
  | nil =>
    obtain rfl := Except.ok.inj h
    exact .nil
  | cons a l ih =>
    rw [List.mapM_cons] at h
    obtain ⟨b, hb, h⟩ := ok_of_bind h
    obtain ⟨more, hmore, h⟩ := ok_of_bind h
    obtain rfl := Except.ok.inj h
    exact .cons hb (ih hmore)

theorem mapM_ok_of_forall₂ {f : α → Except ε β} {l : List α} {found : List β}
    (h : List.Forall₂ (fun a b => f a = .ok b) l found) : l.mapM f = .ok found := by
  induction h with
  | nil => rfl
  | cons hb _ ih =>
    rw [List.mapM_cons, hb, ih]
    rfl

-- What stands around an argument gives what stands around its result.
theorem split_of_mapM_ok {f : α → Except ε β} {before after : List α} {a : α} {found : List β}
    (h : (before ++ a :: after).mapM f = .ok found) :
    ∃ front b back, before.mapM f = .ok front ∧ f a = .ok b ∧ after.mapM f = .ok back ∧
      found = front ++ b :: back := by
  rw [List.mapM_append, List.mapM_cons] at h
  obtain ⟨front, hfront, h⟩ := ok_of_bind h
  obtain ⟨rest, hrest, h⟩ := ok_of_bind h
  obtain rfl := Except.ok.inj h
  obtain ⟨b, hb, hrest⟩ := ok_of_bind hrest
  obtain ⟨back, hback, hrest⟩ := ok_of_bind hrest
  obtain rfl := Except.ok.inj hrest
  exact ⟨front, b, back, hfront, hb, hback, rfl⟩

-- What is done to each result can be done in the end.
theorem mapM_of_map {γ : Type} {f : α → Except ε β} {f' : α → Except ε γ} {k : β → γ}
    (h : ∀ a, f' a = (f a).map k) (l : List α) : l.mapM f' = (l.mapM f).map (List.map k) := by
  induction l with
  | nil => rfl
  | cons a l ih =>
    rw [List.mapM_cons, List.mapM_cons, h, ih]
    cases f a with
    | error e => rfl
    | ok b => cases l.mapM f <;> rfl

theorem toOption_bind {x : Except ε α} {f : α → Except ε β} :
    (x >>= f).toOption = x.toOption.bind fun a => (f a).toOption := by
  cases x <;> rfl

-- What succeeds with other arguments and results in each step does so in the end.
theorem toOption_mapM_map {f : α → Except ε β} {h : α → α} {k : β → β}
    (hf : ∀ a, (f (h a)).toOption = (f a).toOption.map k) (l : List α) :
    ((l.map h).mapM f).toOption = (l.mapM f).toOption.map (List.map k) := by
  induction l with
  | nil => rfl
  | cons a l ih =>
    rw [List.map_cons, List.mapM_cons, List.mapM_cons, toOption_bind, toOption_bind, hf]
    simp only [toOption_bind, ih]
    cases (f a).toOption with
    | none => rfl
    | some b => cases (l.mapM f).toOption <;> rfl

theorem exists_of_mem_mapM_ok {f : α → Except ε β} {l : List α} {found : List β}
    (h : l.mapM f = .ok found) {b : β} (hb : b ∈ found) : ∃ a ∈ l, f a = .ok b := by
  obtain ⟨i, hi, rfl⟩ := List.getElem_of_mem hb
  have hall := forall₂_of_mapM_ok h
  have hlength : i < l.length := hall.length_eq ▸ hi
  exact ⟨l[i], List.getElem_mem _, hall.get hlength hi⟩

-- Several computations succeed when each one does.
theorem exists_mapM_ok_iff {f : α → Except ε β} {l : List α} :
    (∃ found, l.mapM f = .ok found) ↔ ∀ a ∈ l, ∃ b, f a = .ok b := by
  induction l with
  | nil => simp [pure, Except.pure]
  | cons a l ih =>
    rw [List.forall_mem_cons, ← ih, List.mapM_cons]
    constructor
    · rintro ⟨found, h⟩
      obtain ⟨b, hb, h⟩ := ok_of_bind h
      obtain ⟨more, hmore, -⟩ := ok_of_bind h
      exact ⟨⟨b, hb⟩, more, hmore⟩
    · rintro ⟨⟨b, hb⟩, more, hmore⟩
      rw [hb, hmore]
      exact ⟨_, rfl⟩

-- Of several computations the first one that fails gives its error.
theorem mapM_eq_error_iff {f : α → Except ε β} {l : List α} {e : ε} :
    l.mapM f = .error e ↔
      ∃ before a after, l = before ++ a :: after ∧ (∀ b ∈ before, ∀ e', f b ≠ .error e') ∧
        f a = .error e := by
  induction l with
  | nil => simp [pure, Except.pure]
  | cons first rest ih =>
    rw [List.mapM_cons, bind_eq_error_iff]
    constructor
    · rintro (hfirst | ⟨b, hb, h⟩)
      · exact ⟨[], first, rest, rfl, by simp, hfirst⟩
      · rcases bind_eq_error_iff.mp h with h | ⟨more, -, h⟩
        · obtain ⟨before, a, after, rfl, hbefore, ha⟩ := ih.mp h
          refine ⟨first :: before, a, after, rfl, ?_, ha⟩
          simpa [hb] using hbefore
        · cases h
    · rintro ⟨before, a, after, hl, hbefore, ha⟩
      cases before with
      | nil =>
        obtain ⟨rfl, -⟩ := List.cons.inj hl
        exact .inl ha
      | cons b before =>
        obtain ⟨rfl, rfl⟩ := List.cons.inj hl
        obtain ⟨hfirst, hbefore⟩ := List.forall_mem_cons.mp hbefore
        cases hb : f first with
        | error e' => exact absurd hb (hfirst e')
        | ok c =>
          refine .inr ⟨c, rfl, bind_eq_error_iff.mpr (.inl (ih.mpr ?_))⟩
          exact ⟨before, a, after, rfl, hbefore, ha⟩

theorem forall₂_of_mapM {f : α → Option β} {l : List α} {found : List β}
    (h : l.mapM f = some found) : List.Forall₂ (fun a b => f a = some b) l found := by
  induction l generalizing found with
  | nil =>
    obtain rfl := Option.some.inj h
    exact .nil
  | cons a l ih =>
    rw [List.mapM_cons] at h
    obtain ⟨b, hb, h⟩ := Option.bind_eq_some_iff.mp h
    obtain ⟨more, hmore, h⟩ := Option.bind_eq_some_iff.mp h
    obtain rfl := Option.some.inj h
    exact .cons hb (ih hmore)

-- What comes after a condition that must not hold.
theorem some_of_guard {c : Prop} [Decidable c] {f : Unit → Option β} {b : β}
    (h : (if c then none >>= f else f ()) = some b) : ¬c ∧ f () = some b := by
  split at h
  · simp at h
  · exact ⟨‹¬c›, h⟩

-- What comes after a choice between two steps.
theorem some_of_choice {c : Prop} [Decidable c] {x y : Option α} {f : α → Option β} {b : β}
    (h : (if c then x >>= f else y >>= f) = some b) :
    ∃ a, (if c then x else y) = some a ∧ f a = some b := by
  split at h
  · rw [if_pos ‹c›]
    exact Option.bind_eq_some_iff.mp h
  · rw [if_neg ‹¬c›]
    exact Option.bind_eq_some_iff.mp h

-- What no step changes is the same in the end.
theorem foldl_unchanged {γ : Type} {g : β → γ} {f : β → α → β} (hstep : ∀ b a, g (f b a) = g b)
    (l : List α) (b : β) : g (l.foldl f b) = g b := by
  induction l generalizing b with
  | nil => rfl
  | cons a l ih => rw [List.foldl_cons, ih, hstep]

-- What each step preserves is preserved by all of them.
theorem foldlM_invariant {P : β → Prop} {f : β → α → Option β} {l : List α} {b b' : β}
    (hstep : ∀ b a b', P b → f b a = some b' → P b') (hb : P b) (h : l.foldlM f b = some b') :
    P b' := by
  induction l generalizing b with
  | nil =>
    obtain rfl := Option.some.inj h
    exact hb
  | cons a l ih =>
    rw [List.foldlM_cons] at h
    obtain ⟨c, hc, h⟩ := Option.bind_eq_some_iff.mp h
    exact ih (hstep b a c hb hc) h

-- What each step does to a part of the state is done by all of them one after the other.
theorem foldl_of_foldlM {γ : Type} {P : β → Prop} {r : β → γ} {f : β → α → Option β}
    {g : γ → α → γ} {l : List α} {b b' : β}
    (hstep : ∀ b a b', P b → f b a = some b' → P b' ∧ r b' = g (r b) a) (hb : P b)
    (h : l.foldlM f b = some b') : r b' = l.foldl g (r b) := by
  induction l generalizing b with
  | nil =>
    obtain rfl := Option.some.inj h
    rfl
  | cons a l ih =>
    rw [List.foldlM_cons] at h
    obtain ⟨c, hc, h⟩ := Option.bind_eq_some_iff.mp h
    obtain ⟨hP, hr⟩ := hstep b a c hb hc
    rw [List.foldl_cons, ← hr]
    exact ih hP h

section Action

variable {σ : Type}

-- What an action gives that begins in a state, and the state that it leaves.
def runFrom (action : StateM σ α) (s : σ) : α × σ := action.run s

theorem runFrom_pure (a : α) (s : σ) : runFrom (pure a) s = (a, s) := rfl

theorem runFrom_bind (action : StateM σ α) (f : α → StateM σ β) (s : σ) :
    runFrom (action >>= f) s = runFrom (f (runFrom action s).1) (runFrom action s).2 := rfl

variable {x : ExceptT ε (StateM σ) α} {f : α → ExceptT ε (StateM σ) β} {s left : σ}

theorem runFrom_run_bind :
    runFrom (x >>= f).run s =
      match runFrom x.run s with
      | (.ok a, s') => runFrom (f a).run s'
      | (.error e, s') => (.error e, s') := by
  rw [runFrom, ExceptT.run_bind, StateT.run_bind]
  rcases hx : runFrom x.run s with ⟨_ | _, s'⟩ <;> rw [runFrom] at hx <;> rw [hx] <;> rfl

-- An action with two steps that may fail succeeds when both do.
theorem runFrom_run_bind_eq_ok_iff {b : β} :
    runFrom (x >>= f).run s = (.ok b, left) ↔
      ∃ a s', runFrom x.run s = (.ok a, s') ∧ runFrom (f a).run s' = (.ok b, left) := by
  rw [runFrom_run_bind]
  rcases runFrom x.run s with ⟨_ | a, s'⟩ <;> simp

end Action

end TableForge
