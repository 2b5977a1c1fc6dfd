import TableForge.Config.Loading
import TableForge.Proofs.Files.Temporary

namespace TableForge

section OnlyReads

variable {σ ε α β : Type}

-- An action that leaves every state as it is.
def OnlyReads (x : ExceptT ε (StateM σ) α) : Prop := ∀ s, (runFrom x.run s).2 = s

theorem OnlyReads.pure (a : α) : OnlyReads (pure a : ExceptT ε (StateM σ) α) := fun _ => rfl

theorem OnlyReads.throw (e : ε) : OnlyReads (throw e : ExceptT ε (StateM σ) α) := fun _ => rfl

theorem OnlyReads.bind {x : ExceptT ε (StateM σ) α} {f : α → ExceptT ε (StateM σ) β}
    (hx : OnlyReads x) (hf : ∀ a, OnlyReads (f a)) : OnlyReads (x >>= f) := by
  intro s
  have hs := hx s
  rw [runFrom_run_bind]
  generalize runFrom x.run s = reached at hs ⊢
  rcases reached with ⟨_ | a, s'⟩
  · exact hs
  · exact (hf a s').trans hs

end OnlyReads

section Reading

variable {t : Tree}

theorem onlyReads_readText (path : String) :
    OnlyReads (readText path : ExceptT Error (StateM Tree) String) := fun _ => rfl

theorem Config.onlyReads_load (path : String) :
    OnlyReads (load path : ExceptT Error (StateM Tree) Config) := by
  refine (onlyReads_readText path).bind fun text => ?_
  split
  · exact .throw _
  · split <;> exact .pure _

theorem Config.onlyReads_headerOf (path : Option String) (builtIn : Header) :
    OnlyReads (headerOf path builtIn : ExceptT Error (StateM Tree) Header) := by
  cases path with
  | none => exact .pure builtIn
  | some path => exact (onlyReads_readText path).bind fun text => .pure _

theorem Config.onlyReads_loadHeaders (c : Config) (time : Timestamp) :
    OnlyReads (c.loadHeaders time : ExceptT Error (StateM Tree) (Header × Header)) :=
  (onlyReads_headerOf _ _).bind fun _ => (onlyReads_headerOf _ _).bind fun _ => .pure _

end Reading

namespace Tree

variable {t t' t'' : Tree} {path : String}

-- From one tree to the other entries of one sort are made, and nothing else happens to the entries.
structure Gains (sort : Location → Entry → Prop) (t t' : Tree) : Prop where
  workingDirectory : t'.workingDirectory = t.workingDirectory
  entry_or : ∀ location, t'.lookup? location = t.lookup? location ∨
    t.lookup? location = none ∧ ∃ entry, t'.lookup? location = some entry ∧ sort location entry

namespace Gains

variable {sort : Location → Entry → Prop}

theorem refl (t : Tree) : Gains sort t t := ⟨rfl, fun _ => .inl rfl⟩

theorem trans (h : Gains sort t t') (h' : Gains sort t' t'') : Gains sort t t'' where
  workingDirectory := h'.workingDirectory.trans h.workingDirectory
  entry_or := by
    intro location
    rcases h'.entry_or location with hsame' | ⟨hnone', hnew'⟩
    · rw [hsame']
      exact h.entry_or location
    · rcases h.entry_or location with hsame | ⟨-, entry, hentry, -⟩
      · exact .inr ⟨hsame.symm.trans hnone', hnew'⟩
      · rw [hentry] at hnone'
        cases hnone'

theorem put {place : Location} {entry : Entry} (hnone : t.lookup? place = none)
    (hsort : sort place entry) : Gains sort t (t.put place entry) := by
  refine ⟨rfl, fun location => ?_⟩
  rw [lookup?_put (ne_nil_of_lookup? (t := t) (by simp [hnone]))]
  by_cases hlocation : location = place
  · subst hlocation
    exact .inr ⟨hnone, entry, if_pos rfl, hsort⟩
  · exact .inl (if_neg hlocation)

end Gains

-- Nothing but directories is made.
def Grows : Tree → Tree → Prop := Gains fun _ entry => entry = .directory

namespace Grows

theorem refl (t : Tree) : Grows t t := Gains.refl t

theorem trans (h : Grows t t') (h' : Grows t' t'') : Grows t t'' := Gains.trans h h'

theorem entry_or (h : Grows t t') (location : Location) :
    t'.lookup? location = t.lookup? location ∨
      t.lookup? location = none ∧ t'.lookup? location = some .directory := by
  rcases Gains.entry_or h location with hsame | ⟨hnone, _, hentry, rfl⟩
  · exact .inl hsame
  · exact .inr ⟨hnone, hentry⟩

theorem of_makeDirectory (h : t.makeDirectory path = .ok t') : Grows t t' := by
  obtain ⟨place, -, h⟩ := ok_of_bind h
  cases hentry : t.lookup? place with
  | some entry =>
    rw [hentry] at h
    cases h
  | none =>
    rw [hentry] at h
    obtain rfl := Except.ok.inj h
    exact Gains.put hentry rfl

end Grows

theorem openTrace_eq_ok (h : t.openTrace path = .ok t') :
    t' = t ∨ ∃ place, t.locate path = .ok place ∧ t.lookup? place = none ∧
      t' = t.put place (.file "") := by
  obtain ⟨place, hplace, h⟩ := ok_of_bind h
  split at h
  · cases h
  · split at h
    · cases h
    · exact .inl (Except.ok.inj h).symm
  · rename_i hentry
    split at h
    · cases h
    · exact .inr ⟨place, hplace, hentry, (Except.ok.inj h).symm⟩

-- An action that makes directories at most.
def OnlyGrows {α : Type} (x : StateM Tree α) : Prop := ∀ t, Grows t (runFrom x t).2

namespace OnlyGrows

variable {α β : Type}

theorem pure (a : α) : OnlyGrows (pure a) := fun t => .refl t

theorem bind {x : StateM Tree α} {f : α → StateM Tree β} (hx : OnlyGrows x)
    (hf : ∀ a, OnlyGrows (f a)) : OnlyGrows (x >>= f) := by
  intro t
  rw [runFrom_bind]
  exact (hx t).trans (hf _ _)

theorem makeDirectory (path : String) :
    OnlyGrows (FileSystem.makeDirectory path : StateM Tree _) := by
  intro t
  rcases hrun : runFrom (change (·.makeDirectory path)) t with ⟨cause | u, t'⟩
  · obtain ⟨-, rfl⟩ := runFrom_change_eq_error_iff.mp hrun
    exact .refl t'
  · exact .of_makeDirectory (runFrom_change_eq_ok_iff.mp hrun)

theorem unlessDirectory (path : String) (cause : FileCause) :
    OnlyGrows (FileSystem.unlessDirectory path cause : StateM Tree _) := fun t => .refl t

theorem makeChain (paths : List String) :
    OnlyGrows (FileSystem.makeChain paths : StateM Tree _) := by
  induction paths with
  | nil => exact .pure _
  | cons path outer ih =>
    rw [FileSystem.makeChain]
    split
    · exact .pure _
    refine (makeDirectory path).bind fun result => ?_
    split
    · exact .pure _
    · refine ih.bind fun result => ?_
      split
      · exact .pure _
      refine (makeDirectory path).bind fun result => ?_
      split
      · exact .pure _
      · exact unlessDirectory path _
    · exact unlessDirectory path _

theorem makeDirectories (path : String) :
    OnlyGrows (FileSystem.makeDirectories path : StateM Tree _) :=
  makeChain (Path.ancestors path)

end OnlyGrows

end Tree

end TableForge
