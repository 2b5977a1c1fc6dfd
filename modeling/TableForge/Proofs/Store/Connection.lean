import TableForge.Proofs.Files.Directories
import TableForge.Proofs.Script.Condition
import TableForge.Store.Connection

-- A script does with files what the databases need that it attaches, and nothing else.
namespace TableForge

namespace Script

variable {fuel : Nat} {l : Lexeme} {rest input : List Lexeme}

theorem Reader.eq_some_of_bind {α β : Type} {x : Reader α} {f : α → Reader β} {b : β}
    {behind : List Lexeme} (h : (x >>= f) input = some (b, behind)) :
    ∃ a left, x input = some (a, left) ∧ f a left = some (b, behind) := by
  obtain ⟨⟨a, left⟩, hx, hf⟩ := Option.bind_eq_some_iff.mp h
  exact ⟨a, left, hx, hf⟩

namespace Command

-- The commands of a script up to the first one that cannot be read. Each of them takes a unit of
-- fuel.
def leading : Nat → List Lexeme → List Command
  | 0, _ => []
  | _ + 1, [] => []
  | fuel + 1, l :: rest =>
    if l.token == .symbol ";" then leading fuel rest
    else
      match readOne.run (l :: rest) with
      | none => []
      | some (command, behind) => command :: leading fuel behind

def path? : Command → Option String
  | .statement _ => none
  | .attach path _ => some path

theorem readAttach_eq_some {c : Command} {behind : List Lexeme}
    (h : readAttach input = some (c, behind)) : ∃ path name, c = .attach path name := by
  obtain ⟨_, _, _, h⟩ := Reader.eq_some_of_bind h
  obtain ⟨_, _, _, h⟩ := Reader.eq_some_of_bind h
  obtain ⟨path, _, _, h⟩ := Reader.eq_some_of_bind h
  obtain ⟨_, _, _, h⟩ := Reader.eq_some_of_bind h
  obtain ⟨name, _, _, h⟩ := Reader.eq_some_of_bind h
  obtain ⟨rfl, -⟩ := Prod.mk.inj (Option.some.inj h)
  exact ⟨path, name, rfl⟩

-- A statement is read as one. Only what is none can attach a database.
theorem readOne_eq :
    readOne input =
      match Statement.read input with
      | some (s, behind) => (Definition.atEnd behind).map fun ended => (.statement s, ended.2)
      | none => (do let c ← readAttach; Definition.atEnd; return c : Reader Command) input := by
  rw [readOne, read]
  cases hread : Statement.read input with
  | none => simp [Reader.attempt, hread]
  | some found => simp [Reader.attempt, hread]

theorem readOne_eq_statement {s : Statement} {behind : List Lexeme}
    (h : readOne input = some (.statement s, behind)) :
    ∃ left, Statement.read input = some (s, left) ∧ Definition.atEnd left = some ((), behind) := by
  rw [readOne_eq] at h
  split at h
  · rename_i s' left hread
    obtain ⟨⟨u, behind'⟩, hend, h⟩ := Option.map_eq_some_iff.mp h
    cases h
    exact ⟨left, hread, hend⟩
  · obtain ⟨c, _, hattach, h⟩ := Reader.eq_some_of_bind h
    obtain ⟨_, _, _, h⟩ := Reader.eq_some_of_bind h
    obtain ⟨path, name, rfl⟩ := readAttach_eq_some hattach
    cases h

end Command

-- The paths of the databases that a script asks for.
def attachedPaths (script : String) : List String :=
  (Command.leading ((lexemes script).length + 1) (lexemes script)).filterMap (·.path?)

namespace Statement

theorem readAll_of_semicolon (hl : l.token = .symbol ";") :
    readAll (fuel + 1) (l :: rest) = readAll fuel rest := by
  rw [readAll]
  simp [hl]

-- Statements are read one by one.
theorem readAll_eq (hl : l.token ≠ .symbol ";") :
    readAll (fuel + 1) (l :: rest) =
      (read (l :: rest)).bind fun first => (Definition.atEnd first.2).bind fun ended =>
        (readAll fuel ended.2).map fun more => (first.1 :: more.1, more.2) := by
  rw [readAll]
  simp [hl]

end Statement

end Script

namespace Tree

variable {t t' : Tree} {path : String}

-- An empty file where one of the paths leads to.
def IsDatabase (start : Tree) (paths : List String) (location : Location) (entry : Entry) : Prop :=
  entry = .file "" ∧ ∃ path ∈ paths, start.nominal path = location

theorem nominal_eq (h : t'.workingDirectory = t.workingDirectory) (path : String) :
    t'.nominal path = t.nominal path := by
  rw [nominal, nominal, h]

theorem openDatabase_eq_ok (h : t.openDatabase path = .ok t') :
    t' = t ∨ t.lookup? (t.nominal path) = none ∧ t' = t.put (t.nominal path) (.file "") := by
  rw [openDatabase] at h
  split at h
  · cases h
  split at h
  · cases h
  · cases h
  · cases h
  · split at h
    · exact .inl (Except.ok.inj h).symm
    · cases h
  · rename_i hnone
    exact .inr ⟨hnone, (Except.ok.inj h).symm⟩

end Tree

namespace Store.Connection

open Script (Command Statement Lexeme attachedPaths)

variable {around : Surroundings} {start t : Tree} {paths : List String}

theorem gains_attach? (c : Connection) {path : String} (name : String)
    (hworking : t.workingDirectory = start.workingDirectory) (hpath : path ∈ paths) :
    t.Gains (start.IsDatabase paths) (runFrom (c.attach? path name) t).2 := by
  rw [attach?]
  split
  · exact .refl t
  cases hfile : isFileless path
  · change t.Gains _ (runFrom (Tree.change (·.openDatabase path)) t).2
    rcases hopened : runFrom (Tree.change (·.openDatabase path)) t with ⟨cause | u, t'⟩
    · obtain ⟨-, rfl⟩ := Tree.runFrom_change_eq_error_iff.mp hopened
      exact .refl t'
    · rcases Tree.openDatabase_eq_ok (Tree.runFrom_change_eq_ok_iff.mp hopened) with
        rfl | ⟨hnone, rfl⟩
      · exact .refl t'
      · exact .put hnone ⟨rfl, path, hpath, (Tree.nominal_eq hworking path).symm⟩
  · exact .refl t

-- Carrying out a script makes the files of databases, where its commands say.
theorem gains_perform (fuel : Nat) (c : Connection) (input : List Lexeme)
    (hworking : t.workingDirectory = start.workingDirectory)
    (hpaths : ∀ path ∈ (Command.leading fuel input).filterMap (·.path?), path ∈ paths) :
    t.Gains (start.IsDatabase paths) (runFrom (perform around fuel c input) t).2 := by
  induction fuel generalizing c input t with
  | zero => exact .refl t
  | succ fuel ih =>
    cases input with
    | nil => exact .refl t
    | cons l rest =>
      rw [Command.leading] at hpaths
      rw [perform]
      split
      · rename_i hl
        rw [if_pos hl] at hpaths
        exact ih c rest hworking hpaths
      rename_i hl
      rw [if_neg hl] at hpaths
      split
      · exact .refl t
      rename_i command behind hread
      rw [hread] at hpaths
      dsimp only at hpaths
      have hstep : t.Gains (start.IsDatabase paths) (runFrom (c.perform? around command) t).2 := by
        cases command with
        | statement s => exact .refl t
        | attach path name =>
          exact gains_attach? c name hworking (hpaths path (by simp [Command.path?]))
      rw [runFrom_bind]
      refine hstep.trans ?_
      split
      · exact .refl _
      · refine ih _ behind (hstep.workingDirectory.trans hworking) fun path hpath => hpaths path ?_
        rw [List.filterMap_cons]
        split
        · exact hpath
        · exact List.mem_cons_of_mem _ hpath

-- Without databases to attach a script is carried out as it is when all of it is read before.
theorem perform_of_statements (fuel : Nat) (c : Connection) (input : List Lexeme)
    (hpaths : (Command.leading fuel input).filterMap (·.path?) = []) :
    runFrom (perform around fuel c input) t =
      (((Statement.readAll fuel input).bind fun found =>
        found.1.foldlM (Session.next? around) c.session).map fun session =>
          { c with session }, t) := by
  induction fuel generalizing c input with
  | zero => rfl
  | succ fuel ih =>
    cases input with
    | nil => rfl
    | cons l rest =>
      rw [Command.leading] at hpaths
      rw [perform]
      split
      · rename_i hl
        rw [if_pos hl] at hpaths
        rw [Statement.readAll_of_semicolon (eq_of_beq hl)]
        exact ih c rest hpaths
      rename_i hl
      rw [if_neg hl] at hpaths
      rw [Statement.readAll_eq fun hsame => hl (by simp [hsame])]
      split
      · rename_i hnone
        have hcommand := @Command.readOne_eq (l :: rest)
        rw [show Command.readOne (l :: rest) = none from hnone] at hcommand
        split at hcommand
        · rename_i s left hread
          rw [hread, Option.bind_some, Option.map_eq_none_iff.mp hcommand.symm]
          rfl
        · rename_i hread
          rw [hread]
          rfl
      · rename_i command behind hread
        rw [hread] at hpaths
        dsimp only at hpaths
        cases command with
        | attach path name => simp [Command.path?] at hpaths
        | statement s =>
          obtain ⟨left, hstatement, hend⟩ := Command.readOne_eq_statement hread
          rw [hstatement, Option.bind_some, hend, Option.bind_some]
          have hmore (c : Connection) := ih c behind (by simpa [Command.path?] using hpaths)
          simp only [perform?, pure_bind, Option.map_bind, Option.bind_map, Function.comp_def,
            List.foldlM_cons]
          cases hnext : c.session.next? around s with
          | none => cases Statement.readAll fuel behind <;> simp <;> rfl
          | some session =>
            simp only [Option.map_some, hmore]
            cases Statement.readAll fuel behind <;> rfl

end Store.Connection

namespace Store

open Script (Statement attachedPaths)

variable {around : Surroundings} {t : Tree}

theorem gains_execute (script : String) :
    t.Gains (t.IsDatabase (attachedPaths script)) (runFrom (execute around script).run t).2 := by
  have hgains : t.Gains (t.IsDatabase (attachedPaths script)) (runFrom (Connection.perform around
      ((Script.lexemes script).length + 1) {} (Script.lexemes script)) t).2 :=
    Connection.gains_perform _ _ _ rfl fun _ hpath => hpath
  show t.Gains _ (runFrom (Connection.perform around _ {} (Script.lexemes script) >>= _) t).2
  rw [runFrom_bind]
  rcases hperform : runFrom (Connection.perform around ((Script.lexemes script).length + 1) {}
    (Script.lexemes script)) t with ⟨_ | _, left⟩
  · rwa [hperform] at hgains
  · rwa [hperform] at hgains

theorem execute_of_statements {script : String} (h : attachedPaths script = []) :
    runFrom (execute around script).run t = (load script around, t) := by
  show runFrom (Connection.perform around _ {} (Script.lexemes script) >>= _) t = _
  rw [runFrom_bind, Connection.perform_of_statements _ {} _ h, load]
  have hread : Statement.ofScript? script =
    (Statement.readAll ((Script.lexemes script).length + 1) (Script.lexemes script)).map (·.1) :=
  rfl
  rw [hread]
  cases Statement.readAll ((Script.lexemes script).length + 1) (Script.lexemes script) with
  | none => rfl
  | some found =>
    simp only [Option.map_some, Option.bind_some, run?]
    cases found.1.foldlM (Session.next? around) {} <;> rfl

end Store

end TableForge
