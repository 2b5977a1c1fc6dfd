import TableForge.Files.System
import TableForge.Proofs.Decimal.Characters
import TableForge.Proofs.Files.Tree

namespace TableForge

namespace FileSystem

variable {σ : Type} [FileSystem (StateM σ)] {directory path text : String} {s left : σ}

-- The ways in which replacing a file can go.
inductive Replaces (directory path text : String) (s : σ) :
    Except (String × FileCause) Unit → σ → Prop
  | unmade {cause : FileCause} {left : σ} :
    runFrom (makeTemporary directory) s = (.error cause, left) →
      Replaces directory path text s (.error (directory, cause)) left
  | unwritten {temporary : String} {cause : FileCause} {made written left : σ} :
    runFrom (makeTemporary directory) s = (.ok temporary, made) →
      runFrom (writeTemporary temporary text) made = (.error cause, written) →
      runFrom (removeTemporary temporary) written = ((), left) →
      Replaces directory path text s (.error (temporary, cause)) left
  | unmoved {temporary : String} {cause : FileCause} {made written moved left : σ} :
    runFrom (makeTemporary directory) s = (.ok temporary, made) →
      runFrom (writeTemporary temporary text) made = (.ok (), written) →
      runFrom (moveTemporary temporary path) written = (.error cause, moved) →
      runFrom (removeTemporary temporary) moved = ((), left) →
      Replaces directory path text s (.error (path, cause)) left
  | moved {temporary : String} {made written left : σ} :
    runFrom (makeTemporary directory) s = (.ok temporary, made) →
      runFrom (writeTemporary temporary text) made = (.ok (), written) →
      runFrom (moveTemporary temporary path) written = (.ok (), left) →
      Replaces directory path text s (.ok ()) left

theorem replaces_of_run {result : Except (String × FileCause) Unit}
    (h : runFrom (replaceFile directory path text) s = (result, left)) :
    Replaces directory path text s result left := by
  rw [replaceFile, runFrom_bind] at h
  rcases hmade : runFrom (makeTemporary directory) s with ⟨outcome, made⟩
  rw [hmade] at h
  cases outcome with
  | error cause =>
    obtain ⟨rfl, rfl⟩ := Prod.mk.inj h
    exact .unmade hmade
  | ok temporary =>
    simp only [runFrom_bind] at h
    rcases hwritten : runFrom (writeTemporary temporary text) made with ⟨outcome, written⟩
    rw [hwritten] at h
    cases outcome with
    | error cause =>
      obtain ⟨rfl, rfl⟩ := Prod.mk.inj h
      exact .unwritten hmade hwritten rfl
    | ok u =>
      simp only [runFrom_bind] at h
      rcases hmoved : runFrom (moveTemporary temporary path) written with ⟨outcome, moved⟩
      rw [hmoved] at h
      cases outcome with
      | error cause =>
        obtain ⟨rfl, rfl⟩ := Prod.mk.inj h
        exact .unmoved hmade hwritten hmoved rfl
      | ok u =>
        obtain ⟨rfl, rfl⟩ := Prod.mk.inj h
        exact .moved hmade hwritten hmoved

-- What is known of the temporary files of a directory. `files` are the bytes of the files there,
-- and `holds` tells that a path leads to a temporary file and under which name.
structure TemporaryFiles (directory : String) (files : σ → String → Option ByteArray)
    (holds : σ → String → String → Prop) : Prop where
  -- A temporary file is new.
  made {s s' : σ} {path : String} :
    runFrom (makeTemporary directory) s = (.ok path, s') →
      ∃ name, holds s' path name ∧ files s name = none ∧
        files s' = Function.update (files s) name (some .empty)
  unmade {s s' : σ} {cause : FileCause} :
    runFrom (makeTemporary directory) s = (.error cause, s') → files s' = files s
  written {s s' : σ} {path name text : String} : holds s path name →
    runFrom (writeTemporary path text) s = (.ok (), s') →
      holds s' path name ∧ files s' = Function.update (files s) name (some text.toUTF8)
  -- A part of the text may have been written.
  unwritten {s s' : σ} {path name text : String} {cause : FileCause} : holds s path name →
    runFrom (writeTemporary path text) s = (.error cause, s') →
      holds s' path name ∧ ∃ bytes, files s' = Function.update (files s) name (some bytes)
  moved {s s' : σ} {path name target : String} : holds s path name → Path.IsComponent target →
    runFrom (moveTemporary path (Path.join directory target)) s = (.ok (), s') →
      files s' = Function.update (Function.update (files s) name none) target (files s name)
  unmoved {s s' : σ} {path name target : String} {cause : FileCause} : holds s path name →
    Path.IsComponent target →
    runFrom (moveTemporary path (Path.join directory target)) s = (.error cause, s') →
      holds s' path name ∧ files s' = files s
  removed {s s' : σ} {path name : String} : holds s path name →
    runFrom (removeTemporary path) s = ((), s') → files s' = Function.update (files s) name none

namespace TemporaryFiles

variable {files : σ → String → Option ByteArray} {holds : σ → String → String → Prop}
  {target : String} (h : TemporaryFiles directory files holds) (htarget : Path.IsComponent target)

include h htarget

theorem files_of_replaced
    (hrun : runFrom (replaceFile directory (Path.join directory target) text) s = (.ok (), left)) :
    files left = Function.update (files s) target (some text.toUTF8) := by
  cases replaces_of_run hrun with
  | moved hmade hwritten hmoved =>
    obtain ⟨name, hholds, hfree, hfiles⟩ := h.made hmade
    obtain ⟨hholds, hfiles'⟩ := h.written hholds hwritten
    rw [h.moved hholds htarget hmoved, hfiles', hfiles, Function.update_self,
      Function.update_idem, Function.update_idem, ← hfree, Function.update_eq_self]

theorem files_of_unreplaced {error : String × FileCause}
    (hrun : runFrom (replaceFile directory (Path.join directory target) text) s =
      (.error error, left)) : files left = files s := by
  cases replaces_of_run hrun with
  | unmade hmade => exact h.unmade hmade
  | unwritten hmade hwritten hremoved =>
    obtain ⟨name, hholds, hfree, hfiles⟩ := h.made hmade
    obtain ⟨hholds, bytes, hfiles'⟩ := h.unwritten hholds hwritten
    rw [h.removed hholds hremoved, hfiles', hfiles, Function.update_idem, Function.update_idem,
      ← hfree, Function.update_eq_self]
  | unmoved hmade hwritten hmoved hremoved =>
    obtain ⟨name, hholds, hfree, hfiles⟩ := h.made hmade
    obtain ⟨hholds, hfiles'⟩ := h.written hholds hwritten
    obtain ⟨hholds, hkept⟩ := h.unmoved hholds htarget hmoved
    rw [h.removed hholds hremoved, hkept, hfiles', hfiles, Function.update_idem,
      Function.update_idem, ← hfree, Function.update_eq_self]

end TemporaryFiles

end FileSystem

namespace Tree

variable {t t' : Tree} {directory path target text name : String} {location place : Location}

section Steps

variable {ε α : Type} {e : ε} {a : α}

theorem runFrom_produce_eq_ok_iff {f : Tree → Except ε (α × Tree)} :
    runFrom (produce f) t = (.ok a, t') ↔ f t = .ok (a, t') := by
  rw [runFrom, StateT.run, produce]
  rcases f t with e | ⟨b, changed⟩ <;> simp

theorem runFrom_produce_eq_error_iff {f : Tree → Except ε (α × Tree)} :
    runFrom (produce f) t = (.error e, t') ↔ f t = .error e ∧ t' = t := by
  rw [runFrom, StateT.run, produce]
  rcases f t with e' | ⟨b, changed⟩ <;> simp [eq_comm]

theorem runFrom_change_eq_ok_iff {f : Tree → Except ε Tree} :
    runFrom (change f) t = (.ok (), t') ↔ f t = .ok t' := by
  rw [change, runFrom_produce_eq_ok_iff]
  cases f t <;> simp [Except.map]

theorem runFrom_change_eq_error_iff {f : Tree → Except ε Tree} :
    runFrom (change f) t = (.error e, t') ↔ f t = .error e ∧ t' = t := by
  rw [change, runFrom_produce_eq_error_iff]
  cases f t <;> simp [Except.map]

end Steps

theorem fileAt_eq_ok_iff :
    t.fileAt path = .ok (location, text) ↔
      t.locate path = .ok location ∧ t.lookup? location = some (.file text) := by
  rw [fileAt, bind_eq_ok_iff]
  constructor
  · rintro ⟨found, hfound, h⟩
    split at h
    · cases h
    · cases h
    · rename_i hentry
      obtain ⟨rfl, rfl⟩ := Prod.mk.inj (Except.ok.inj h)
      exact ⟨hfound, hentry⟩
  · rintro ⟨hfound, hentry⟩
    refine ⟨location, hfound, ?_⟩
    rw [hentry]

theorem isComponent_temporaryName (number : Nat) : Path.IsComponent (temporaryName number) := by
  have hletters : (temporaryName number).toList =
      ['.', 't', 'm', 'p'] ++ Nat.toDigits 10 (100000 + number) := by
    rw [temporaryName, String.toList_append, Nat.toString_eq_repr, Nat.toList_repr]
    rfl
  have hdiffers {s : String} (hs : s.toList.length < 4) : temporaryName number ≠ s := by
    rintro rfl
    rw [hletters, List.length_append, List.length_cons] at hs
    simp only [List.length_cons, List.length_nil] at hs
    omega
  refine ⟨hdiffers (by decide), hdiffers (by decide), hdiffers (by decide), ?_⟩
  rw [hletters, List.mem_append, not_or]
  refine ⟨by decide, fun hslash => ?_⟩
  exact absurd (isNumeral_of_mem_toDigits hslash) (by decide)

theorem freeName?_eq_some {attempts number : Nat}
    (h : t.freeName? location attempts number = some name) :
    Path.IsComponent name ∧ t.lookup? (name :: location) = none := by
  induction attempts generalizing number with
  | zero => cases h
  | succ attempts ih =>
    rw [freeName?] at h
    split at h
    · obtain rfl := Option.some.inj h
      exact ⟨isComponent_temporaryName number, ‹_›⟩
    · exact ih h

-- A file of a directory under its path.
structure HoldsFile (t : Tree) (directory path name : String) (location : Location)
    (text : String) : Prop where
  directory_eq : t.checkDirectory directory = .ok location
  path_eq : t.locate path = .ok (name :: location)
  entry_eq : t.lookup? (name :: location) = some (.file text)

namespace HoldsFile

theorem of_put (hdirectory : t.checkDirectory directory = .ok location)
    (hpath : t.locate path = .ok (name :: location))
    (hentry : t.lookup? (name :: location) ≠ some .directory) (text : String) :
    (t.put (name :: location) (.file text)).HoldsFile directory path name location text := by
  have hsame := SameDirectories.put text hentry
  refine ⟨hsame.checkDirectory hdirectory, hsame.locate hpath, ?_⟩
  rw [lookup?_put (List.cons_ne_nil _ _), if_pos rfl]

theorem of_makeTemporary (h : t.makeTemporary directory = .ok (path, t')) :
    ∃ location name, t.checkDirectory directory = .ok location ∧
      t.lookup? (name :: location) = none ∧ t' = t.put (name :: location) (.file "") ∧
      t'.HoldsFile directory path name location "" := by
  obtain ⟨location, hdirectory, h⟩ := ok_of_bind h
  cases hfree : t.freeName? location attemptLimit 0 with
  | none =>
    rw [hfree] at h
    cases h
  | some name =>
    rw [hfree] at h
    obtain ⟨hname, hnone⟩ := freeName?_eq_some hfree
    obtain ⟨place, hplace, h⟩ := ok_of_bind h
    obtain ⟨rfl, rfl⟩ := Prod.mk.inj (Except.ok.inj h)
    obtain rfl := locate_join hname hdirectory hplace
    exact ⟨location, name, hdirectory, hnone, rfl, of_put hdirectory hplace (by simp [hnone]) ""⟩

variable (h : t.HoldsFile directory path name location text)

include h

theorem entry_ne : t.lookup? (name :: location) ≠ some .directory := by
  rw [h.entry_eq]
  simp

theorem fileAt_eq : t.fileAt path = .ok (name :: location, text) :=
  fileAt_eq_ok_iff.mpr ⟨h.path_eq, h.entry_eq⟩

theorem overwrite_eq (text' : String) :
    t.overwrite path text' = .ok (t.put (name :: location) (.file text')) := by
  rw [overwrite, h.fileAt_eq]
  rfl

theorem removeFile_eq : t.removeFile path = .ok (t.remove (name :: location)) := by
  rw [removeFile, h.fileAt_eq]
  rfl

theorem runFrom_removeTemporary :
    runFrom (FileSystem.removeTemporary path) t = ((), t.remove (name :: location)) := by
  have hrun : runFrom (change (·.removeFile path)) t = (.ok (), t.remove (name :: location)) :=
    runFrom_change_eq_ok_iff.mpr h.removeFile_eq
  show runFrom (change (·.removeFile path) >>= fun _ => pure ()) t = _
  rw [runFrom_bind, hrun, runFrom_pure]

theorem of_moveFile (htarget : Path.IsComponent target)
    (hmoved : t.moveFile path (Path.join directory target) = .ok t') :
    t.lookup? (target :: location) ≠ some .directory ∧
      t' = (t.remove (name :: location)).put (target :: location) (.file text) := by
  rw [moveFile, h.fileAt_eq] at hmoved
  obtain ⟨_, hfile, hmoved⟩ := ok_of_bind hmoved
  obtain rfl := Except.ok.inj hfile
  obtain ⟨place, hplace, hmoved⟩ := ok_of_bind hmoved
  obtain rfl := moveTarget_join htarget h.directory_eq hplace
  exact ⟨entry_ne_of_moveTarget hplace, (Except.ok.inj hmoved).symm⟩

end HoldsFile

-- The bytes of a file of a directory, if there is one of that name.
def filesIn (t : Tree) (directory name : String) : Option ByteArray :=
  match t.checkDirectory directory with
  | .error _ => none
  | .ok location =>
    match t.lookup? (name :: location) with
    | some (.file text) => some text.toUTF8
    | _ => none

theorem filesIn_of_checkDirectory (h : t.checkDirectory directory = .ok location) :
    t.filesIn directory name =
      match t.lookup? (name :: location) with
      | some (.file text) => some text.toUTF8
      | _ => none := by
  rw [filesIn, h]

-- A change at one name leaves the files of all others.
theorem filesIn_of_name (hsame : SameDirectories t t')
    (hdirectory : t.checkDirectory directory = .ok location)
    (hothers : ∀ other, other ≠ name → t'.lookup? (other :: location) = t.lookup? (other :: location)) :
    t'.filesIn directory = Function.update (t.filesIn directory) name (t'.filesIn directory name) := by
  funext other
  rw [Function.update_apply]
  by_cases hother : other = name
  · rw [if_pos hother, hother]
  · rw [if_neg hother, filesIn_of_checkDirectory (hsame.checkDirectory hdirectory),
      hothers other hother, filesIn_of_checkDirectory hdirectory]

theorem filesIn_put (hdirectory : t.checkDirectory directory = .ok location)
    (hentry : t.lookup? (name :: location) ≠ some .directory) :
    (t.put (name :: location) (.file text)).filesIn directory =
      Function.update (t.filesIn directory) name (some text.toUTF8) := by
  have hsame := SameDirectories.put text hentry
  rw [filesIn_of_name hsame hdirectory fun other hother => by
    rw [lookup?_put (List.cons_ne_nil _ _), if_neg (by simpa using hother)]]
  rw [filesIn_of_checkDirectory (hsame.checkDirectory hdirectory),
    lookup?_put (List.cons_ne_nil _ _), if_pos rfl]

theorem filesIn_remove (hdirectory : t.checkDirectory directory = .ok location)
    (hentry : t.lookup? (name :: location) ≠ some .directory) :
    (t.remove (name :: location)).filesIn directory =
      Function.update (t.filesIn directory) name none := by
  have hsame := SameDirectories.remove hentry
  rw [filesIn_of_name hsame hdirectory fun other hother => by
    rw [lookup?_remove (List.cons_ne_nil _ _), if_neg (by simpa using hother)]]
  rw [filesIn_of_checkDirectory (hsame.checkDirectory hdirectory),
    lookup?_remove (List.cons_ne_nil _ _), if_pos rfl]

theorem HoldsFile.filesIn_eq (h : t.HoldsFile directory path name location text) :
    t.filesIn directory name = some text.toUTF8 := by
  rw [filesIn_of_checkDirectory h.directory_eq, h.entry_eq]

-- A path leads to a temporary file of a directory.
def HoldsTemporary (directory : String) (t : Tree) (path name : String) : Prop :=
  ∃ location text, t.HoldsFile directory path name location text

theorem temporaryFiles (directory : String) :
    FileSystem.TemporaryFiles directory (fun t : Tree => t.filesIn directory)
      (HoldsTemporary directory) where
  made h := by
    obtain ⟨location, name, hdirectory, hfree, rfl, hfile⟩ :=
      HoldsFile.of_makeTemporary (runFrom_produce_eq_ok_iff.mp h)
    refine ⟨name, ⟨location, "", hfile⟩, ?_, filesIn_put hdirectory (by simp [hfree])⟩
    rw [filesIn_of_checkDirectory hdirectory, hfree]
  unmade h := by rw [(runFrom_produce_eq_error_iff.mp h).2]
  written := by
    rintro t t' path name text ⟨location, before, hfile⟩ h
    have hwritten := (hfile.overwrite_eq text).symm.trans (runFrom_change_eq_ok_iff.mp h)
    obtain rfl := Except.ok.inj hwritten
    exact ⟨⟨location, text, .of_put hfile.directory_eq hfile.path_eq hfile.entry_ne text⟩,
      filesIn_put hfile.directory_eq hfile.entry_ne⟩
  unwritten := by
    rintro t t' path name text cause ⟨location, before, hfile⟩ h
    have hfails := (runFrom_change_eq_error_iff.mp h).1
    cases (hfile.overwrite_eq text).symm.trans hfails
  moved := by
    rintro t t' path name target ⟨location, text, hfile⟩ htarget h
    obtain ⟨hentry, rfl⟩ := hfile.of_moveFile htarget (runFrom_change_eq_ok_iff.mp h)
    have hsame := SameDirectories.remove hfile.entry_ne
    rw [filesIn_put (hsame.checkDirectory hfile.directory_eq)
      (fun h => hentry ((hsame.directory_iff _).mpr h)),
      filesIn_remove hfile.directory_eq hfile.entry_ne, hfile.filesIn_eq]
  unmoved := by
    rintro t t' path name target cause hholds - h
    obtain ⟨-, rfl⟩ := runFrom_change_eq_error_iff.mp h
    exact ⟨hholds, rfl⟩
  removed := by
    rintro t t' path name ⟨location, text, hfile⟩ h
    obtain ⟨-, rfl⟩ := Prod.mk.inj (hfile.runFrom_removeTemporary.symm.trans h)
    exact filesIn_remove hfile.directory_eq hfile.entry_ne

-- A file that is not replaced leaves no trace.
theorem eq_of_unreplaced {error : String × FileCause}
    (h : runFrom (FileSystem.replaceFile directory path text) t = (.error error, t')) : t' = t := by
  cases FileSystem.replaces_of_run h with
  | unmade hmade => exact (runFrom_produce_eq_error_iff.mp hmade).2
  | unwritten hmade hwritten hremoved =>
    obtain ⟨location, name, -, -, -, hfile⟩ :=
      HoldsFile.of_makeTemporary (runFrom_produce_eq_ok_iff.mp hmade)
    have hfails := (runFrom_change_eq_error_iff.mp hwritten).1
    cases (hfile.overwrite_eq text).symm.trans hfails
  | unmoved hmade hwritten hmoved hremoved =>
    obtain ⟨location, name, hdirectory, hfree, rfl, hfile⟩ :=
      HoldsFile.of_makeTemporary (runFrom_produce_eq_ok_iff.mp hmade)
    have hwritten := (hfile.overwrite_eq text).symm.trans (runFrom_change_eq_ok_iff.mp hwritten)
    obtain rfl := Except.ok.inj hwritten
    obtain ⟨-, rfl⟩ := runFrom_change_eq_error_iff.mp hmoved
    have hfile := HoldsFile.of_put hfile.directory_eq hfile.path_eq hfile.entry_ne text
    obtain ⟨-, rfl⟩ := Prod.mk.inj (hfile.runFrom_removeTemporary.symm.trans hremoved)
    rw [put_put, remove_put hfree]

end Tree

end TableForge
