import TableForge.Proofs.Generator.Writing
import TableForge.Proofs.Store.Listing
import TableForge.Proofs.Table.Fields

namespace TableForge

-- A kind of file that can be selected.
inductive Kind where
  | dump
  | tables
  | data
  | patch
  deriving DecidableEq, Repr

namespace Kinds

def has (k : Kinds) : Kind → Bool
  | .dump => k.dump
  | .tables => k.tables
  | .data => k.data
  | .patch => k.patch

-- What the first selection has the second one has too.
def Within (small large : Kinds) : Prop := ∀ kind, small.has kind → large.has kind

end Kinds

-- A generated file with its kind.
abbrev Labelled := Kind × Artifact

-- No two listed tables have one name, whatever the case of its letters.
def Catalog.NamesDiffer (c : Catalog) : Prop :=
  ∀ tables, c.tables = .ok tables → tables.Pairwise fun a b => Text.sameLetters a.1 b.1 = false

theorem Store.namesDiffer_of_load {source : String} {around : Store.Surroundings} {s : Store}
    (h : Store.load source around = .ok s) (o : Occasion) : (s.catalog o).NamesDiffer := by
  intro tables htables
  obtain rfl := Except.ok.inj htables
  exact (Store.sound_of_load h).pairwise_listTables

namespace Generator

-- The pass with another selection.
def selecting (g : Generator) (k : Kinds) : Generator := { g with kinds := k }

-- The modules of a table.
def labelledModules (g : Generator) (t : Table) : List Labelled :=
  (g.tableModules t).map (.tables, ·) ++ (g.dataModules t).map (.data, ·)

-- What is made for a table.
def labelledOfTable (g : Generator) (t : Table) : Except Error (List Labelled) := do
  return g.labelledModules t ++ (← g.patches t).map (.patch, ·)

def labelledOfEntry (g : Generator) (c : Catalog) (entry : String × String) :
    Except Error (List Labelled) := do
  g.labelledOfTable (← Table.build c entry.1 entry.2)

-- Everything that is made from a schema whose script has made a catalog.
def labelled (g : Generator) (sourceName source : String) (c : Catalog) :
    Except Error (List Labelled) := do
  let blocks ← (← c.tables).mapM (g.labelledOfEntry c)
  return (g.dumps sourceName source).map (.dump, ·) ++ blocks.flatten

theorem ofTable_eq (g : Generator) (t : Table) :
    g.ofTable t = (g.labelledOfTable t).map (List.map (·.2)) := by
  rw [ofTable, labelledOfTable]
  cases g.patches t with
  | error e => rfl
  | ok scripts =>
    simp [bind, Except.bind, pure, Except.pure, Except.map, labelledModules, Function.comp_def]

-- The kinds only stand beside what is made.
theorem ofSchema_eq (g : Generator) (sourceName source : String) (c : Catalog) :
    g.ofSchema sourceName source c = (g.labelled sourceName source c).map (List.map (·.2)) := by
  have hentry (entry : String × String) :
      (do g.ofTable (← Table.build c entry.1 entry.2)) =
        (g.labelledOfEntry c entry).map (List.map (·.2)) := by
    rw [labelledOfEntry]
    cases Table.build c entry.1 entry.2 with
    | error e => rfl
    | ok t => exact g.ofTable_eq t
  rw [ofSchema, ofCatalog, labelled]
  cases c.tables with
  | error e => rfl
  | ok tables =>
    change (tables.mapM (fun entry => do g.ofTable (← Table.build c entry.1 entry.2)) >>=
      fun artifacts => .ok artifacts.flatten) >>= _ = Except.map _ (tables.mapM _ >>= _)
    rw [mapM_of_map hentry]
    cases hblocks : tables.mapM (g.labelledOfEntry c) with
    | error e => rfl
    | ok blocks =>
      simp [bind, Except.bind, pure, Except.pure, Except.map, List.map_flatten, Function.comp_def]

theorem ofSchema_eq_ok_iff {g : Generator} {sourceName source : String} {c : Catalog}
    {artifacts : List Artifact} :
    g.ofSchema sourceName source c = .ok artifacts ↔
      ∃ all, g.labelled sourceName source c = .ok all ∧ all.map (·.2) = artifacts := by
  rw [ofSchema_eq]
  cases g.labelled sourceName source c <;> simp [Except.map]

theorem render_eq_ok_iff {g : Generator} {sourceName source : String} {around : Store.Surroundings}
    {artifacts : List Artifact} :
    g.render sourceName source around = .ok artifacts ↔
      ∃ store all, Store.load source around = .ok store ∧
        g.labelled sourceName source (store.catalog around.asked) = .ok all ∧
          all.map (·.2) = artifacts := by
  rw [render_eq_bind, bind_eq_ok_iff]
  simp only [ofSchema_eq_ok_iff, exists_and_left]

theorem labelled_eq_ok {g : Generator} {sourceName source : String} {c : Catalog}
    {all : List Labelled} (h : g.labelled sourceName source c = .ok all) :
    ∃ tables blocks, c.tables = .ok tables ∧ tables.mapM (g.labelledOfEntry c) = .ok blocks ∧
      all = (g.dumps sourceName source).map (.dump, ·) ++ blocks.flatten := by
  obtain ⟨tables, htables, h⟩ := ok_of_bind h
  obtain ⟨blocks, hblocks, h⟩ := ok_of_bind h
  obtain rfl := Except.ok.inj h
  exact ⟨tables, blocks, htables, hblocks, rfl⟩

section Narrow

variable {g : Generator} {k : Kinds}

-- Whether files of one kind stay does not depend on the file.
theorem filter_label (kind : Kind) (artifacts : List Artifact) :
    (artifacts.map (kind, ·)).filter (fun a => k.has a.1) =
      if k.has kind then artifacts.map (kind, ·) else [] := by
  cases hkind : k.has kind <;> simp [List.filter_map, Function.comp_def, hkind]

theorem dumps_selecting (h : k.Within g.kinds) (sourceName source : String) :
    ((g.selecting k).dumps sourceName source).map (Kind.dump, ·) =
      ((g.dumps sourceName source).map (Kind.dump, ·)).filter fun a => k.has a.1 := by
  have hdump : k.dump → g.kinds.dump := h .dump
  rw [filter_label]
  cases hkind : k.dump <;> simp_all [dumps, selecting, Kinds.has]

theorem labelledModules_selecting (h : k.Within g.kinds) (t : Table) :
    (g.selecting k).labelledModules t = (g.labelledModules t).filter fun a => k.has a.1 := by
  have htables : k.tables → g.kinds.tables := h .tables
  have hdata : k.data → g.kinds.data := h .data
  rw [labelledModules, labelledModules, List.filter_append, filter_label, filter_label]
  congr 1
  · cases hkind : k.tables <;> simp_all [tableModules, selecting, Kinds.has]
  · cases hkind : k.data <;> simp_all [dataModules, selecting, Kinds.has]

-- A script that can be made is made or left out.
theorem patches_selecting (h : k.Within g.kinds) {t : Table} {scripts : List Artifact}
    (hscripts : g.patches t = .ok scripts) :
    (g.selecting k).patches t = .ok (if k.patch then scripts else []) := by
  have hpatch : k.patch → g.kinds.patch := h .patch
  cases hkind : k.patch with
  | false => simp [patches, selecting, hkind, pure, Except.pure]
  | true =>
    have hsame : (g.selecting k).patches t = g.patches t := by
      simp [patches, patchScript, selecting, hkind, hpatch hkind]
    rw [hsame, hscripts]
    rfl

theorem labelledOfTable_selecting (h : k.Within g.kinds) {t : Table} {block : List Labelled}
    (hblock : g.labelledOfTable t = .ok block) :
    (g.selecting k).labelledOfTable t = .ok (block.filter fun a => k.has a.1) := by
  obtain ⟨scripts, hscripts, hblock⟩ := ok_of_bind hblock
  obtain rfl := Except.ok.inj hblock
  have hkept : (if k.patch then scripts else []).map (Kind.patch, ·) =
      (scripts.map (Kind.patch, ·)).filter fun a => k.has a.1 := by
    rw [filter_label, Kinds.has]
    split <;> rfl
  rw [labelledOfTable, patches_selecting h hscripts, List.filter_append,
    ← labelledModules_selecting h, ← hkept]
  rfl

-- With fewer kinds the same files are made, but for those of the other kinds.
theorem labelled_selecting (h : k.Within g.kinds) {sourceName source : String} {c : Catalog}
    {all : List Labelled} (hall : g.labelled sourceName source c = .ok all) :
    (g.selecting k).labelled sourceName source c = .ok (all.filter fun a => k.has a.1) := by
  obtain ⟨tables, blocks, htables, hblocks, rfl⟩ := labelled_eq_ok hall
  have hentry (entry : String × String) (block : List Labelled)
      (hblock : g.labelledOfEntry c entry = .ok block) :
      (g.selecting k).labelledOfEntry c entry = .ok (block.filter fun a => k.has a.1) := by
    obtain ⟨t, ht, hblock⟩ := ok_of_bind hblock
    rw [labelledOfEntry, ht]
    exact labelledOfTable_selecting h hblock
  have hnarrow : tables.mapM ((g.selecting k).labelledOfEntry c) =
      .ok (blocks.map fun block => block.filter fun a => k.has a.1) :=
    mapM_ok_of_forall₂ (List.forall₂_map_right_iff.mpr
      ((forall₂_of_mapM_ok hblocks).imp hentry))
  rw [labelled, htables, List.filter_append, List.filter_flatten, ← dumps_selecting h]
  change (tables.mapM ((g.selecting k).labelledOfEntry c) >>= _) = _
  rw [hnarrow]
  rfl

end Narrow

-- Both scripts for a table stand right behind its modules, and there are no others.
def PatchesFollow (g : Generator) (t : Table) (all : List Labelled) : Prop :=
  ∃ front full unicode back,
    all = front ++ (g.labelledModules t ++ [(.patch, full), (.patch, unicode)]) ++ back ∧
    g.patchScript t g.config.patch.fullFile .full = .ok full ∧
    g.patchScript t g.config.patch.unicodeFile .unicodeOnly = .ok unicode ∧
    ∀ a ∈ front ++ back, a.1 ≠ .patch

-- The table of a catalog entry is to be patched.
def IsPatched (g : Generator) (entry : String × String) : Prop :=
  g.kinds.patch ∧ Text.sameLetters entry.1 g.config.patch.table

-- Scripts are made for a listed table that is to be patched, and only then.
structure PatchesStand (g : Generator) (c : Catalog) (tables : List (String × String))
    (all : List Labelled) : Prop where
  appear_iff : (∃ a ∈ all, a.1 = .patch) ↔ ∃ entry ∈ tables, g.IsPatched entry
  follow : ∀ entry ∈ tables, g.IsPatched entry →
    ∃ t, Table.build c entry.1 entry.2 = .ok t ∧ g.PatchesFollow t all

section Patch

variable {g : Generator} {c : Catalog} {entry : String × String} {block : List Labelled}

theorem ne_patch_of_mem_modules {t : Table} {a : Labelled} (h : a ∈ g.labelledModules t) :
    a.1 ≠ .patch := by
  rcases List.mem_append.mp h with h | h
  · obtain ⟨_, -, rfl⟩ := List.mem_map.mp h
    simp
  · obtain ⟨_, -, rfl⟩ := List.mem_map.mp h
    simp

-- What is made for an entry has both scripts if its table is to be patched, and none otherwise.
theorem labelledOfEntry_eq_ok (h : g.labelledOfEntry c entry = .ok block) :
    ∃ t, Table.build c entry.1 entry.2 = .ok t ∧
      ((¬g.IsPatched entry ∧ block = g.labelledModules t) ∨
        (g.IsPatched entry ∧ ∃ full unicode,
          g.patchScript t g.config.patch.fullFile .full = .ok full ∧
          g.patchScript t g.config.patch.unicodeFile .unicodeOnly = .ok unicode ∧
          block = g.labelledModules t ++ [(.patch, full), (.patch, unicode)])) := by
  obtain ⟨t, ht, h⟩ := ok_of_bind h
  obtain ⟨scripts, hscripts, h⟩ := ok_of_bind h
  obtain rfl := Except.ok.inj h
  rw [patches, Table.name_of_build ht] at hscripts
  refine ⟨t, ht, ?_⟩
  split at hscripts
  · rename_i hboth
    have hpatched : g.IsPatched entry := Bool.and_eq_true_iff.mp hboth
    obtain ⟨full, hfull, hscripts⟩ := ok_of_bind hscripts
    obtain ⟨unicode, hunicode, hscripts⟩ := ok_of_bind hscripts
    obtain rfl := Except.ok.inj hscripts
    exact .inr ⟨hpatched, full, unicode, hfull, hunicode, rfl⟩
  · rename_i hboth
    have hnot : ¬g.IsPatched entry := fun hpatched => hboth (Bool.and_eq_true_iff.mpr hpatched)
    obtain rfl := Except.ok.inj hscripts
    exact .inl ⟨hnot, List.append_nil _⟩

theorem isPatched_of_mem_block (h : g.labelledOfEntry c entry = .ok block) {a : Labelled}
    (ha : a ∈ block) (hkind : a.1 = .patch) : g.IsPatched entry := by
  obtain ⟨t, -, ⟨-, rfl⟩ | ⟨hpatched, -⟩⟩ := labelledOfEntry_eq_ok h
  · exact absurd hkind (ne_patch_of_mem_modules ha)
  · exact hpatched

theorem ne_patch_of_mem_flatten {entries : List (String × String)} {blocks : List (List Labelled)}
    (h : entries.mapM (g.labelledOfEntry c) = .ok blocks)
    (hnone : ∀ entry ∈ entries, ¬g.IsPatched entry) : ∀ a ∈ blocks.flatten, a.1 ≠ .patch := by
  intro a ha hkind
  obtain ⟨block, hblock, ha⟩ := List.mem_flatten.mp ha
  obtain ⟨entry, hentry, hmade⟩ := exists_of_mem_mapM_ok h hblock
  exact hnone entry hentry (isPatched_of_mem_block hmade ha hkind)

-- The names of listed tables differ, so that no other one is to be patched.
theorem not_isPatched_of_split {before after : List (String × String)}
    (hnames : c.NamesDiffer) (hsplit : c.tables = .ok (before ++ entry :: after))
    (hpatched : g.IsPatched entry) :
    (∀ other ∈ before, ¬g.IsPatched other) ∧ ∀ other ∈ after, ¬g.IsPatched other := by
  have hdistinct := hnames _ hsplit
  rw [List.pairwise_append, List.pairwise_cons] at hdistinct
  obtain ⟨-, ⟨hafter, -⟩, hbefore⟩ := hdistinct
  have hother {other : String × String} (hdiffer : Text.sameLetters other.1 entry.1 = false) :
      ¬g.IsPatched other := by
    rintro ⟨-, hsame⟩
    have hentry := hpatched.2
    simp only [Text.sameLetters, beq_iff_eq, beq_eq_false_iff_ne] at hdiffer hsame hentry
    exact hdiffer (hsame.trans hentry.symm)
  constructor
  · exact fun other hmem => hother (hbefore other hmem entry List.mem_cons_self)
  · exact fun other hmem => hother ((Store.sameLetters_comm _ _).trans (hafter other hmem))

variable {tables : List (String × String)} {sourceName source : String} {all : List Labelled}

theorem patchesFollow_of_labelled (hnames : c.NamesDiffer) (htables : c.tables = .ok tables)
    (hall : g.labelled sourceName source c = .ok all) (hentry : entry ∈ tables)
    (hpatched : g.IsPatched entry) :
    ∃ t, Table.build c entry.1 entry.2 = .ok t ∧ g.PatchesFollow t all := by
  obtain ⟨tables', blocks, htables', hblocks, rfl⟩ := labelled_eq_ok hall
  obtain rfl := Except.ok.inj (htables.symm.trans htables')
  obtain ⟨before, after, rfl⟩ := List.append_of_mem hentry
  obtain ⟨hbefore, hafter⟩ := not_isPatched_of_split hnames htables hpatched
  obtain ⟨front, block, back, hfront, hblock, hback, rfl⟩ := split_of_mapM_ok hblocks
  obtain ⟨t, ht, ⟨hnot, -⟩ | ⟨-, full, unicode, hfull, hunicode, rfl⟩⟩ :=
    labelledOfEntry_eq_ok hblock
  · exact absurd hpatched hnot
  have hdumps : ∀ a ∈ (g.dumps sourceName source).map (Kind.dump, ·), a.1 ≠ .patch := by simp
  refine ⟨t, ht, (g.dumps sourceName source).map (.dump, ·) ++ front.flatten, full, unicode,
    back.flatten, by simp, hfull, hunicode, ?_⟩
  simp only [List.forall_mem_append]
  exact ⟨⟨hdumps, ne_patch_of_mem_flatten hfront hbefore⟩, ne_patch_of_mem_flatten hback hafter⟩

theorem patchesStand_of_labelled (hnames : c.NamesDiffer) (htables : c.tables = .ok tables)
    (hall : g.labelled sourceName source c = .ok all) : g.PatchesStand c tables all where
  appear_iff := by
    constructor
    · rintro ⟨a, ha, hkind⟩
      by_contra hnone
      obtain ⟨tables', blocks, htables', hblocks, rfl⟩ := labelled_eq_ok hall
      obtain rfl := Except.ok.inj (htables.symm.trans htables')
      have hdumps : ∀ a ∈ (g.dumps sourceName source).map (Kind.dump, ·), a.1 ≠ .patch := by simp
      have hblocks := ne_patch_of_mem_flatten hblocks fun entry hentry hpatched =>
        hnone ⟨entry, hentry, hpatched⟩
      exact List.forall_mem_append.mpr ⟨hdumps, hblocks⟩ a ha hkind
    · rintro ⟨entry, hentry, hpatched⟩
      obtain ⟨t, -, front, full, unicode, back, rfl, -⟩ :=
        patchesFollow_of_labelled hnames htables hall hentry hpatched
      exact ⟨(.patch, full), by simp, rfl⟩
  follow := fun _ hentry hpatched => patchesFollow_of_labelled hnames htables hall hentry hpatched

end Patch

section Narrows

variable {σ : Type}

-- Where chance decides whether a script is refused the second pass can fail.
example :
    let g : Generator := ⟨{}, ⟨true, true, true, true⟩, ⟨""⟩, ⟨""⟩⟩
    let schema := "CREATE TABLE A(ID INTEGER PRIMARY KEY, V INTEGER NOT NULL);" ++
      "INSERT INTO A VALUES (1, 1 / random())"
    (g.render "t.sql" schema { drawn := fun _ => 1 }).toOption.isSome ∧
      ((g.selecting .usual).render "t.sql" schema { drawn := fun _ => 0 }).toOption = none := by
  decide +kernel

end Narrows

end Generator

end TableForge
