import TableForge.Files.Tree
import TableForge.Proofs.Computation

namespace TableForge

namespace Path

-- The name of a file in a directory: nothing that leads elsewhere.
def IsComponent (name : String) : Prop :=
  name ≠ "" ∧ name ≠ "." ∧ name ≠ ".." ∧ '/' ∉ name.toList

instance (name : String) : Decidable (IsComponent name) :=
  inferInstanceAs (Decidable (_ ∧ _))

theorem pieces_of_not_mem {s : List Char} (h : '/' ∉ s) : pieces s = [s] := by
  induction s with
  | nil => rfl
  | cons c rest ih =>
    rw [List.mem_cons, not_or] at h
    obtain ⟨hc, hrest⟩ := h
    rw [pieces, if_neg (Ne.symm hc), ih hrest]

theorem isAbsolute_of_not_mem {s : String} (h : '/' ∉ s.toList) : isAbsolute s = false := by
  rw [isAbsolute, beq_eq_false_iff_ne]
  intro hhead
  exact h (List.mem_of_head? hhead)

section Join

variable {directory name : String}

-- However the directory is written, the name comes behind a slash or stands alone.
theorem toList_join (directory : String) (h : IsComponent name) :
    (directory = "" ∧ join directory name = name) ∨
      ∃ front, (join directory name).toList = front ++ '/' :: name.toList ∧
        (directory.toList = front ∨ directory.toList = front ++ ['/']) := by
  have hrelative := isAbsolute_of_not_mem h.2.2.2
  rw [join, hrelative, if_neg Bool.false_ne_true]
  by_cases hempty : directory = ""
  · subst hempty
    exact .inl ⟨rfl, String.empty_append⟩
  by_cases hslash : asksForDirectory directory = true
  · right
    rw [if_pos (by simp [hslash])]
    obtain ⟨front, hfront⟩ := List.getLast?_eq_some_iff.mp (eq_of_beq hslash)
    refine ⟨front, ?_, .inr hfront⟩
    rw [String.toList_append, hfront, List.append_assoc]
    rfl
  · right
    rw [if_neg (by simp [hslash, hempty])]
    refine ⟨directory.toList, ?_, .inl rfl⟩
    simp

theorem parts_join (h : IsComponent name) : parts (join directory name) = parts directory ++ [name] := by
  have hname : (pieces name.toList).filter (!·.isEmpty) = [name.toList] := by
    rw [pieces_of_not_mem h.2.2.2]
    simp [h.1]
  rcases toList_join directory h with ⟨rfl, hjoin⟩ | ⟨front, hjoin, hdirectory⟩
  · rw [hjoin, parts, hname]
    simp [parts, pieces]
  · have hsame : (pieces directory.toList).filter (!·.isEmpty) =
        (pieces front).filter (!·.isEmpty) := by
      rcases hdirectory with hdirectory | hdirectory
      · rw [hdirectory]
      · rw [hdirectory, pieces_append_slash, List.filter_append]
        simp [pieces]
    rw [parts, parts, hjoin, pieces_append_slash, List.filter_append, hname, List.map_append, hsame]
    simp

theorem isAbsolute_join (h : IsComponent name) (hne : directory ≠ "") :
    isAbsolute (join directory name) = isAbsolute directory := by
  rcases toList_join directory h with ⟨hempty, -⟩ | ⟨front, hjoin, hdirectory⟩
  · exact absurd hempty hne
  · rw [isAbsolute, isAbsolute, hjoin]
    rcases hdirectory with hdirectory | hdirectory
    · have hfront : front ≠ [] := by
        rintro rfl
        exact hne (String.toList_inj.mp hdirectory)
      rw [hdirectory, List.head?_append_of_ne_nil _ hfront]
    · cases front with
      | nil => rw [hdirectory]; rfl
      | cons c front => rw [hdirectory]; rfl

end Join

end Path

namespace Tree

variable {t t' : Tree} {location other place : Location} {entry : Entry}

section Entries

-- The root is always a directory.
theorem ne_nil_of_lookup? (h : t.lookup? location ≠ some .directory) : location ≠ [] := by
  rintro rfl
  exact h rfl

theorem lookup?_eq (h : location ≠ []) : t.lookup? location = t.entries.lookup location := by
  rw [lookup?, List.isEmpty_eq_false_iff.mpr h]
  rfl

theorem lookup?_put (h : location ≠ []) :
    (t.put location entry).lookup? other =
      if other = location then some entry else t.lookup? other := by
  by_cases hroot : other = []
  · subst hroot
    rw [if_neg (Ne.symm h)]
    rfl
  · rw [lookup?_eq hroot, lookup?_eq hroot]
    exact Keyed.lookup_put location other entry t.entries

theorem lookup?_remove (h : location ≠ []) :
    (t.remove location).lookup? other = if other = location then none else t.lookup? other := by
  by_cases hroot : other = []
  · subst hroot
    rw [if_neg (Ne.symm h)]
    rfl
  · rw [lookup?_eq hroot, lookup?_eq hroot]
    exact Keyed.lookup_erase location other t.entries

-- What is new is taken away again without a trace.
theorem remove_put (h : t.lookup? location = none) : (t.put location entry).remove location = t := by
  rw [lookup?_eq (ne_nil_of_lookup? (t := t) (by simp [h]))] at h
  exact congrArg (Tree.mk t.workingDirectory · t.console) (Keyed.erase_put h entry)

theorem put_put (entry' : Entry) :
    (t.put location entry).put location entry' = t.put location entry' :=
  congrArg (Tree.mk t.workingDirectory · t.console)
    (Keyed.put_put location entry entry' t.entries)

end Entries

section Walking

variable {part path directory name : String} {parts : List String}

theorem directory_of_step (h : t.step location part = .ok place) :
    t.lookup? location = some .directory := by
  rw [step] at h
  split at h
  · cases h
  · cases h
  · assumption

theorem eq_of_step (hname : Path.IsComponent name) (h : t.step location name = .ok place) :
    place = name :: location := by
  obtain ⟨-, hdot, hdots, -⟩ := hname
  rw [step, directory_of_step h] at h
  simp only [if_neg hdot, if_neg hdots] at h
  split at h
  · cases h
  · exact (Except.ok.inj h).symm

theorem locate_eq_ok_iff :
    t.locate path = .ok place ↔
      Char.ofNat 0 ∉ path.toList ∧ checkPath path = .ok () ∧
        t.walk path (Path.parts path) = .ok place := by
  rw [locate]
  split
  · rename_i hzero
    simp [hzero]
  · rename_i hzero
    cases hpath : checkPath path with
    | error cause => simp [bind, Except.bind]
    | ok u => simp [bind, Except.bind, hzero]

theorem checkDirectory_eq_ok_iff :
    t.checkDirectory directory = .ok location ↔
      (directory = "" ∧ location = t.workingDirectory ∨
        directory ≠ "" ∧ t.locate directory = .ok location) ∧
      t.lookup? location = some .directory := by
  have hplace : t.locateDirectory directory = .ok location ↔
      directory = "" ∧ location = t.workingDirectory ∨
        directory ≠ "" ∧ t.locate directory = .ok location := by
    rw [locateDirectory]
    by_cases hempty : directory = ""
    · simp [hempty, Eq.comm (a := location)]
    · simp [hempty]
  rw [checkDirectory, bind_eq_ok_iff, ← hplace]
  constructor
  · rintro ⟨found, hfound, h⟩
    split at h
    · cases h
    · rename_i hentry
      obtain rfl := Except.ok.inj h
      exact ⟨hfound, hentry⟩
    · cases h
  · rintro ⟨hfound, hentry⟩
    refine ⟨location, hfound, ?_⟩
    rw [hentry]

theorem walk_append {more : List String} :
    t.walk path (parts ++ more) = (t.walk path parts >>= fun found => more.foldlM t.step found) := by
  rw [walk, List.foldlM_append]
  rfl

-- A path that goes on from a directory by one name begins with the way to the directory.
theorem walk_join (hname : Path.IsComponent name) (h : t.checkDirectory directory = .ok location) :
    t.walk (Path.join directory name) (Path.parts directory) = .ok location := by
  obtain ⟨⟨rfl, rfl⟩ | ⟨hne, hlocated⟩, -⟩ := checkDirectory_eq_ok_iff.mp h
  · have hjoin : Path.join "" name = name := by
      rcases Path.toList_join "" hname with ⟨-, hjoin⟩ | ⟨front, -, hfront⟩
      · exact hjoin
      · rw [Path.join, Path.isAbsolute_of_not_mem hname.2.2.2]
        simp
    rw [walk, hjoin, Path.isAbsolute_of_not_mem hname.2.2.2]
    rfl
  · obtain ⟨-, -, hwalk⟩ := locate_eq_ok_iff.mp hlocated
    rw [walk, Path.isAbsolute_join hname hne]
    exact hwalk

theorem locate_join (hname : Path.IsComponent name) (h : t.checkDirectory directory = .ok location)
    (hplace : t.locate (Path.join directory name) = .ok place) : place = name :: location := by
  obtain ⟨-, -, hwalk⟩ := locate_eq_ok_iff.mp hplace
  rw [Path.parts_join hname, walk_append, walk_join hname h] at hwalk
  obtain ⟨found, hstep, hdone⟩ := ok_of_bind (x := t.step location name) (f := pure) hwalk
  obtain rfl := Except.ok.inj hdone
  exact eq_of_step hname hstep

-- A file that is moved into a directory under a name gets there.
theorem moveTarget_join {source : Location} (hname : Path.IsComponent name)
    (h : t.checkDirectory directory = .ok location)
    (hplace : t.moveTarget source (Path.join directory name) = .ok place) :
    place = name :: location := by
  have hparts : (Path.parts (Path.join directory name)).reverse =
      name :: (Path.parts directory).reverse := by
    rw [Path.parts_join hname, List.reverse_append]
    rfl
  rw [moveTarget] at hplace
  split at hplace
  · cases hplace
  obtain ⟨-, -, hplace⟩ := ok_of_bind hplace
  rw [hparts] at hplace
  obtain ⟨parent, hparent, hplace⟩ := ok_of_bind hplace
  rw [List.reverse_reverse, walk_join hname h] at hparent
  obtain rfl := Except.ok.inj hparent
  obtain ⟨found, hstep, hplace⟩ := ok_of_bind hplace
  obtain rfl := eq_of_step hname hstep
  split at hplace
  · cases hplace
  split at hplace
  · cases hplace
  split at hplace
  · split at hplace <;> cases hplace
  · exact (Except.ok.inj hplace).symm

theorem entry_ne_of_moveTarget {source : Location} (h : t.moveTarget source path = .ok place) :
    t.lookup? place ≠ some .directory := by
  rw [moveTarget] at h
  split at h
  · cases h
  obtain ⟨-, -, h⟩ := ok_of_bind h
  split at h
  · cases h
  obtain ⟨parent, -, h⟩ := ok_of_bind h
  obtain ⟨found, -, h⟩ := ok_of_bind h
  split at h
  · cases h
  split at h
  · cases h
  split at h
  · split at h <;> cases h
  · rename_i hentry
    obtain rfl := Except.ok.inj h
    intro hdirectory
    exact hentry hdirectory

end Walking

section Directories

variable {part path directory : String}

-- Two trees with the same directories.
structure SameDirectories (t t' : Tree) : Prop where
  workingDirectory : t.workingDirectory = t'.workingDirectory
  directory_iff : ∀ location,
    t.lookup? location = some .directory ↔ t'.lookup? location = some .directory

namespace SameDirectories

-- A change at one place that is no directory before or after it leaves the directories.
theorem of_place (hworking : t.workingDirectory = t'.workingDirectory)
    (h : t.lookup? location ≠ some .directory) (h' : t'.lookup? location ≠ some .directory)
    (hothers : ∀ other, other ≠ location → t'.lookup? other = t.lookup? other) :
    SameDirectories t t' where
  workingDirectory := hworking
  directory_iff := by
    intro other
    by_cases hother : other = location
    · subst hother
      exact iff_of_false h h'
    · rw [hothers other hother]

theorem put (text : String) (h : t.lookup? location ≠ some .directory) :
    SameDirectories t (t.put location (.file text)) := by
  refine of_place rfl h ?_ fun other hother => ?_
  · rw [lookup?_put (ne_nil_of_lookup? h), if_pos rfl]
    simp
  · rw [lookup?_put (ne_nil_of_lookup? h), if_neg hother]

theorem remove (h : t.lookup? location ≠ some .directory) :
    SameDirectories t (t.remove location) := by
  refine of_place rfl h ?_ fun other hother => ?_
  · rw [lookup?_remove (ne_nil_of_lookup? h), if_pos rfl]
    simp
  · rw [lookup?_remove (ne_nil_of_lookup? h), if_neg hother]

variable (h : SameDirectories t t')

include h

theorem step (hstep : t.step location part = .ok place) : t'.step location part = .ok place := by
  have hdirectory := directory_of_step hstep
  rw [Tree.step, hdirectory] at hstep
  rw [Tree.step, (h.directory_iff location).mp hdirectory]
  exact hstep

theorem walk {parts : List String} (hwalk : t.walk path parts = .ok place) :
    t'.walk path parts = .ok place := by
  rw [Tree.walk, ← h.workingDirectory]
  rw [Tree.walk] at hwalk
  generalize (if Path.isAbsolute path then [] else t.workingDirectory) = start at hwalk ⊢
  induction parts generalizing start with
  | nil => exact hwalk
  | cons part rest ih =>
    rw [List.foldlM_cons] at hwalk ⊢
    obtain ⟨next, hstep, hrest⟩ := ok_of_bind hwalk
    rw [h.step hstep]
    exact ih next hrest

theorem locate (hplace : t.locate path = .ok place) : t'.locate path = .ok place := by
  obtain ⟨hzero, hpath, hwalk⟩ := locate_eq_ok_iff.mp hplace
  exact locate_eq_ok_iff.mpr ⟨hzero, hpath, h.walk hwalk⟩

theorem checkDirectory (hdirectory : t.checkDirectory directory = .ok location) :
    t'.checkDirectory directory = .ok location := by
  rw [checkDirectory_eq_ok_iff] at hdirectory ⊢
  obtain ⟨hleads, hentry⟩ := hdirectory
  refine ⟨?_, (h.directory_iff location).mp hentry⟩
  rcases hleads with ⟨hempty, hworking⟩ | ⟨hne, hlocated⟩
  · exact .inl ⟨hempty, hworking.trans h.workingDirectory⟩
  · exact .inr ⟨hne, h.locate hlocated⟩

end SameDirectories

end Directories

end Tree

end TableForge
