import TableForge.Proofs.Files.Temporary
import TableForge.Proofs.Generator.Writing
import Mathlib.Data.List.Induction

namespace TableForge.Sink

open FileSystem

section Attempts

variable {σ : Type}

-- One more write after others: it is remembered if it succeeds.
def attemptNext (sink : Sink (StateM σ)) (reached : List Artifact × σ) (a : Artifact) :
    List Artifact × σ :=
  match resultFrom (sink a) reached.2 with
  | (.ok (), left) => (reached.1 ++ [a], left)
  | (.error _, left) => (reached.1, left)

-- Writes artifacts, those behind a failure too. Tells which of them were written.
def attempt (sink : Sink (StateM σ)) (s : σ) (artifacts : List Artifact) : List Artifact × σ :=
  artifacts.foldl sink.attemptNext ([], s)

end Attempts

-- What the last of several artifacts with a name contains.
def lastBytes? (written : List Artifact) (name : String) : Option ByteArray :=
  (written.reverse.find? fun a => a.name = name).map Artifact.bytes

theorem lastBytes?_append (written : List Artifact) (a : Artifact) :
    lastBytes? (written ++ [a]) = Function.update (lastBytes? written) a.name (some a.bytes) := by
  funext name
  rw [lastBytes?, List.reverse_concat, List.find?_cons, Function.update_apply]
  by_cases hname : a.name = name
  · simp [hname]
  · simp [hname, Ne.symm hname, lastBytes?]

theorem exists_of_lastBytes? {written : List Artifact} {name : String}
    (h : lastBytes? written name ≠ none) : ∃ a ∈ written, a.name = name := by
  rw [lastBytes?, ne_eq, Option.map_eq_none_iff] at h
  obtain ⟨a, ha⟩ := Option.ne_none_iff_exists'.mp h
  exact ⟨a, List.mem_reverse.mp (List.mem_of_find?_eq_some ha), by
    simpa using List.find?_some ha⟩

-- The memory never refuses an artifact, and has the last one of each name.
theorem exists_memory (written : List Artifact) :
    ∃ kept, memory.Reaches [] written kept ∧
      ∀ name, (kept.lookup name).map String.toUTF8 = lastBytes? written name := by
  have hreaches (written : List Artifact) (kept : List (String × String)) :
      memory.Reaches kept written (written.foldl (fun kept a => Keyed.put a.name a.fileText kept)
        kept) := by
    induction written generalizing kept with
    | nil => exact .nil kept
    | cons a written ih => exact .cons rfl (ih _)
  refine ⟨_, hreaches written [], ?_⟩
  induction written using List.reverseRecOn with
  | nil => exact fun _ => rfl
  | append_singleton written a ih =>
    intro name
    rw [List.foldl_append, List.foldl_cons, List.foldl_nil, Keyed.lookup_put, lastBytes?_append,
      Function.update_apply]
    by_cases hname : name = a.name
    · rw [if_pos hname, if_pos hname, Option.map_some, Artifact.toUTF8_fileText]
    · rw [if_neg hname, if_neg hname]
      exact ih name

section Directory

variable {σ : Type} [FileSystem (StateM σ)] {path : String} {s left : σ} {a : Artifact}

theorem resultFrom_directory (path : String) (a : Artifact) (s : σ) :
    resultFrom (directory path a) s =
      ((runFrom (replaceFile path (Path.join path a.name) a.fileText) s).1.mapError
          fun (path, cause) => .file path cause,
        (runFrom (replaceFile path (Path.join path a.name) a.fileText) s).2) := rfl

theorem run_of_directory_eq_ok (h : resultFrom (directory path a) s = (.ok (), left)) :
    runFrom (replaceFile path (Path.join path a.name) a.fileText) s = (.ok (), left) := by
  rw [resultFrom_directory] at h
  rcases hrun : runFrom (replaceFile path (Path.join path a.name) a.fileText) s with ⟨result, s'⟩
  rw [hrun] at h
  cases result with
  | error error => cases (Prod.mk.inj h).1
  | ok u =>
    obtain ⟨-, rfl⟩ := Prod.mk.inj h
    rfl

theorem run_of_directory_eq_error {e : Error}
    (h : resultFrom (directory path a) s = (.error e, left)) :
    ∃ error, runFrom (replaceFile path (Path.join path a.name) a.fileText) s =
      (.error error, left) := by
  rw [resultFrom_directory] at h
  rcases hrun : runFrom (replaceFile path (Path.join path a.name) a.fileText) s with ⟨result, s'⟩
  rw [hrun] at h
  cases result with
  | error error =>
    obtain ⟨-, rfl⟩ := Prod.mk.inj h
    exact ⟨error, rfl⟩
  | ok u => cases (Prod.mk.inj h).1

variable {files : σ → String → Option ByteArray} {holds : σ → String → String → Prop}
  {written : List Artifact}

-- When the files are those of the artifacts written so far, one more write leaves them so.
theorem files_attemptNext (h : TemporaryFiles path files holds) (hname : Path.IsComponent a.name)
    (hfiles : files s = lastBytes? written) :
    files ((directory path).attemptNext (written, s) a).2 =
      lastBytes? ((directory path).attemptNext (written, s) a).1 := by
  rw [attemptNext]
  rcases hwrite : resultFrom (directory path a) s with ⟨outcome, left⟩
  cases outcome with
  | ok u =>
    have hleft := h.files_of_replaced hname (run_of_directory_eq_ok hwrite)
    rw [hleft, hfiles, Artifact.toUTF8_fileText, lastBytes?_append]
  | error e =>
    obtain ⟨error, hrun⟩ := run_of_directory_eq_error hwrite
    rw [h.files_of_unreplaced hname hrun, hfiles]

theorem files_attempt {artifacts : List Artifact} (h : TemporaryFiles path files holds)
    (hempty : ∀ name, files s name = none) (hnames : ∀ a ∈ artifacts, Path.IsComponent a.name) :
    files ((directory path).attempt s artifacts).2 =
      lastBytes? ((directory path).attempt s artifacts).1 := by
  induction artifacts using List.reverseRecOn with
  | nil => exact funext hempty
  | append_singleton artifacts a ih =>
    have hbefore := ih fun b hb => hnames b (List.mem_append_left _ hb)
    rw [attempt, List.foldl_append, List.foldl_cons, List.foldl_nil]
    exact files_attemptNext h (hnames a (by simp)) hbefore

-- After each of several writes a directory that was empty has the files that the memory keeps of
-- the artifacts written so far: the last one of each name, and nothing else. A write that fails
-- changes no file.
theorem directory_keeps_memory {artifacts : List Artifact} (h : TemporaryFiles path files holds)
    (hempty : ∀ name, files s name = none) (hnames : ∀ a ∈ artifacts, Path.IsComponent a.name) :
    (∀ front, front <+: artifacts →
      ∃ written left kept, (directory path).attempt s front = (written, left) ∧
        memory.Reaches [] written kept ∧
        (∀ name, files left name = (kept.lookup name).map String.toUTF8) ∧
        (∀ name, files left name =
          (written.reverse.find? fun a => a.name = name).map Artifact.bytes) ∧
        ∀ name, files left name ≠ none → ∃ a ∈ written, a.name = name) ∧
    ∀ a s e left, Path.IsComponent a.name →
      resultFrom (directory path a) s = (.error e, left) → files left = files s := by
  refine ⟨fun front hfront => ?_, fun a s e left hname hwrite => ?_⟩
  · rcases hattempt : (directory path).attempt s front with ⟨written, left⟩
    have hfiles := files_attempt h hempty fun a ha => hnames a (hfront.subset ha)
    rw [hattempt] at hfiles
    obtain ⟨kept, hreaches, hkept⟩ := exists_memory written
    refine ⟨written, left, kept, rfl, hreaches, fun name => ?_, congrFun hfiles, fun name hname => ?_⟩
    · rw [hkept]
      exact congrFun hfiles name
    · rw [hfiles] at hname
      exact exists_of_lastBytes? hname
  · obtain ⟨error, hrun⟩ := run_of_directory_eq_error hwrite
    exact h.files_of_unreplaced hname hrun

end Directory

-- Between two writes of one name stands one of a name that a directory has.
theorem directory_keeps_memory_of_three :
    let t : Tree := { entries := [(["out"], .directory), (["B.h", "out"], .directory)] }
    let first : Artifact := ⟨"A.h", "", "first", false⟩
    let other : Artifact := ⟨"B.h", "", "other", false⟩
    let second : Artifact := ⟨"A.h", "", "second", true⟩
    ∃ left, (directory "out").attempt t [first, other, second] = ([first, second], left) ∧
      left.filesIn "out" "A.h" = some second.bytes ∧
      ∀ name, left.filesIn "out" name ≠ none → name = "A.h" := by
  intro t first other second
  have hempty (name : String) : t.filesIn "out" name = none := by
    have hdirectory : t.checkDirectory "out" = .ok ["out"] := by decide +kernel
    rw [Tree.filesIn_of_checkDirectory hdirectory]
    by_cases hname : name = "B.h"
    · rw [hname]
      rfl
    · have hentry : t.lookup? [name, "out"] = none := by
        simp [Tree.lookup?, t, List.lookup_cons, beq_false_of_ne hname]
      rw [hentry]
  have hnames : ∀ a ∈ [first, other, second], Path.IsComponent a.name := by decide +kernel
  have hwritten : ((directory "out").attempt t [first, other, second]).1 = [first, second] := by
    decide +kernel
  obtain ⟨written, left, kept, hattempt, -, -, hlast, honly⟩ :=
    (directory_keeps_memory (Tree.temporaryFiles "out") hempty hnames).1 _ (List.prefix_refl _)
  rw [hattempt] at hwritten
  obtain rfl : written = [first, second] := hwritten
  refine ⟨left, hattempt, hlast "A.h", fun name hname => ?_⟩
  obtain ⟨a, ha, rfl⟩ := honly name hname
  simp only [List.mem_cons, List.not_mem_nil, or_false] at ha
  rcases ha with rfl | rfl <;> rfl

end TableForge.Sink
