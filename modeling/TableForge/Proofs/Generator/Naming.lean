import TableForge.Proofs.Generator.Selection
import TableForge.Proofs.Generator.Writing
import TableForge.Proofs.Table.Naming
import Mathlib.Data.List.Flatten

namespace TableForge

-- What the names of the modules of a table end with.
def Table.moduleEndings : List String := ["Table.h", "Table.cpp", "Data.h", "Data.cpp"]

namespace Config

-- The files that do not belong to the code of a table.
def files (c : Config) : List String := [c.dumpFile, c.patch.fullFile, c.patch.unicodeFile]

-- These files differ, and none of them can be taken for a module.
structure FilesApart (c : Config) : Prop where
  distinct : c.files.Nodup
  plain : ∀ file ∈ c.files, ∀ ending ∈ Table.moduleEndings, ¬ending.toList <:+ file.toList

theorem filesApart_default : ({} : Config).FilesApart := ⟨by decide, by decide⟩

end Config

theorem Keyed.put_eq_append {key value : String} {entries : List (String × String)}
    (h : key ∉ entries.map (·.1)) : put key value entries = entries ++ [(key, value)] := by
  induction entries with
  | nil => rfl
  | cons e rest ih =>
    rw [List.map_cons, List.mem_cons, not_or] at h
    obtain ⟨hne, hrest⟩ := h
    rw [put, if_neg hne, ih hrest, List.cons_append]

-- Artifacts with new names come behind what the memory has.
theorem Sink.reaches_memory {artifacts : List Artifact} {files : List (String × String)}
    (h : (files.map (·.1) ++ artifacts.map (·.name)).Nodup) :
    Sink.memory.Reaches files artifacts
      (files ++ artifacts.map fun a => (a.name, a.fileText)) := by
  induction artifacts generalizing files with
  | nil => simpa using .nil files
  | cons a rest ih =>
    have hnew : a.name ∉ files.map (·.1) := by
      intro hmem
      exact (List.nodup_append.mp h).2.2 _ hmem _ List.mem_cons_self rfl
    have hwrite : resultFrom (Sink.memory a) files =
        (.ok (), files ++ [(a.name, a.fileText)]) := by
      rw [← Keyed.put_eq_append hnew]
      rfl
    have hrest : Sink.memory.Reaches (files ++ [(a.name, a.fileText)]) rest
        (files ++ [(a.name, a.fileText)] ++ rest.map fun a => (a.name, a.fileText)) :=
      ih (by simpa using h)
    rw [List.append_assoc, List.singleton_append] at hrest
    exact .cons hwrite hrest

namespace Generator

variable {g : Generator} {c : Catalog}

-- The modules of a table have names that its classes begin with.
theorem sublist_moduleNames (g : Generator) (t : Table) :
    ((g.labelledModules t).map (·.2.name)).Sublist
      (Table.moduleEndings.map (t.classBase ++ ·)) := by
  have htables : ((g.tableModules t).map (·.name)).Sublist
      (["Table.h", "Table.cpp"].map (t.classBase ++ ·)) := by
    rw [tableModules]
    split
    · simp [Artifact.tableInterface, Artifact.tableImplementation, Artifact.ofModule,
        Table.tableClass, String.append_assoc]
    · exact List.nil_sublist _
  have hdata : ((g.dataModules t).map (·.name)).Sublist
      (["Data.h", "Data.cpp"].map (t.classBase ++ ·)) := by
    rw [dataModules]
    split
    · simp [Artifact.dataInterface, Artifact.dataImplementation, Artifact.ofModule,
        Table.dataClass, String.append_assoc]
    · exact List.nil_sublist _
  have hnames : (g.labelledModules t).map (·.2.name) =
      (g.tableModules t).map (·.name) ++ (g.dataModules t).map (·.name) := by
    simp [labelledModules, Function.comp_def]
  rw [hnames]
  exact htables.append hdata

-- A pass builds a table for each entry of its catalog. Besides the scripts it makes the modules of
-- these tables.
theorem exists_tables {entries : List (String × String)} {blocks : List (List Labelled)}
    (h : entries.mapM (g.labelledOfEntry c) = .ok blocks) :
    ∃ tables, List.Forall₂ (fun entry t => Table.build c entry.1 entry.2 = .ok t) entries tables ∧
      blocks.flatten.filter (fun a => !decide (a.1 = .patch)) =
        tables.flatMap g.labelledModules := by
  induction forall₂_of_mapM_ok h with
  | nil => exact ⟨[], .nil, rfl⟩
  | @cons entry block entries blocks hblock hrest ih =>
    obtain ⟨tables, htables, hmodules⟩ := ih (mapM_ok_of_forall₂ hrest)
    obtain ⟨t, ht, hcases⟩ := labelledOfEntry_eq_ok hblock
    have hkept : (g.labelledModules t).filter (fun a => !decide (a.1 = .patch)) =
        g.labelledModules t :=
      List.filter_eq_self.mpr fun a ha => by simpa using ne_patch_of_mem_modules ha
    have hself : block.filter (fun a => !decide (a.1 = .patch)) = g.labelledModules t := by
      obtain ⟨-, rfl⟩ | ⟨-, full, unicode, -, -, rfl⟩ := hcases
      · exact hkept
      · simp [hkept]
    refine ⟨t :: tables, .cons ht htables, ?_⟩
    rw [List.flatten_cons, List.filter_append, hself, hmodules, List.flatMap_cons]

theorem map_name_of_builds {entries : List (String × String)} {tables : List Table}
    (h : List.Forall₂ (fun entry t => Table.build c entry.1 entry.2 = .ok t) entries tables) :
    tables.map (·.name) = entries.map (·.1) := by
  induction h with
  | nil => rfl
  | cons ht _ ih => rw [List.map_cons, List.map_cons, Table.name_of_build ht, ih]

-- Tables that are built from listed entries have different names.
theorem nodup_tableNames {entries : List (String × String)} {tables : List Table}
    (hnames : c.NamesDiffer) (hlisted : c.tables = .ok entries)
    (h : List.Forall₂ (fun entry t => Table.build c entry.1 entry.2 = .ok t) entries tables) :
    (tables.map (·.name)).Nodup := by
  rw [map_name_of_builds h]
  refine List.pairwise_map.mpr ((hnames entries hlisted).imp ?_)
  intro a b hdiffer heq
  simp [heq, Text.sameLetters] at hdiffer

theorem name_of_patchScript {t : Table} {name : String} {variant : PatchVariant} {a : Artifact}
    (h : g.patchScript t name variant = .ok a) : a.name = name := by
  obtain ⟨script, -, h⟩ := ok_of_bind h
  obtain rfl := Except.ok.inj h
  rfl

-- The scripts of a pass are at most one of each file.
theorem PatchesStand.sublist_names {entries : List (String × String)} {all : List Labelled}
    (h : g.PatchesStand c entries all) :
    ((all.filter fun a => decide (a.1 = .patch)).map (·.2.name)).Sublist
      [g.config.patch.fullFile, g.config.patch.unicodeFile] := by
  by_cases hpatched : ∃ entry ∈ entries, g.IsPatched entry
  · obtain ⟨entry, hentry, hpatches⟩ := hpatched
    obtain ⟨t, -, front, full, unicode, back, rfl, hfull, hunicode, hothers⟩ :=
      h.follow entry hentry hpatches
    have hnone {l : List Labelled} (hl : ∀ a ∈ l, a.1 ≠ .patch) :
        l.filter (fun a => decide (a.1 = .patch)) = [] :=
      List.filter_eq_nil_iff.mpr fun a ha => by simpa using hl a ha
    obtain ⟨hfront, hback⟩ := List.forall_mem_append.mp hothers
    have hmodules := hnone fun a (ha : a ∈ g.labelledModules t) => ne_patch_of_mem_modules ha
    simp [hnone hfront, hnone hback, hmodules, name_of_patchScript hfull,
      name_of_patchScript hunicode]
  · have hnone : all.filter (fun a => decide (a.1 = .patch)) = [] :=
      List.filter_eq_nil_iff.mpr fun a ha hkind =>
        hpatched (h.appear_iff.mp ⟨a, ha, of_decide_eq_true hkind⟩)
    simp [hnone]

-- The files that do not belong to the code of a table, and all modules of some tables.
theorem nodup_fileNames (h : g.config.FilesApart) {tables : List Table}
    (htables : (tables.map (·.name)).Nodup) :
    (g.config.files ++ tables.flatMap fun t => Table.moduleEndings.map (t.classBase ++ ·)).Nodup := by
  have hapart : Text.Apart Table.moduleEndings := by decide
  have hmodules := hapart.nodup_flatMap (Table.nodup_classBases htables)
  rw [List.flatMap_map] at hmodules
  refine List.nodup_append.mpr ⟨h.distinct, hmodules, ?_⟩
  rintro file hfile _ hmodule rfl
  obtain ⟨t, -, hmodule⟩ := List.mem_flatMap.mp hmodule
  obtain ⟨ending, hending, rfl⟩ := List.mem_map.mp hmodule
  refine h.plain _ hfile ending hending ?_
  rw [String.toList_append]
  exact List.suffix_append _ _

-- What else there is has the name of the dump, or of a module.
theorem sublist_otherNames (tables : List Table) (sourceName source : String) :
    (((g.dumps sourceName source).map (Kind.dump, ·) ++ tables.flatMap g.labelledModules).map
      (·.2.name)).Sublist (g.config.dumpFile ::
        tables.flatMap fun t => Table.moduleEndings.map (t.classBase ++ ·)) := by
  have hdumps : (((g.dumps sourceName source).map (Kind.dump, ·)).map (·.2.name)).Sublist
      [g.config.dumpFile] := by
    rw [dumps]
    split <;> simp
  rw [List.map_append, List.map_flatMap]
  exact hdumps.append (List.Sublist.flatMap_right tables fun t _ => g.sublist_moduleNames t)

theorem nodup_names (h : g.config.FilesApart) (hnames : c.NamesDiffer)
    {sourceName source : String} {all : List Labelled}
    (hall : g.labelled sourceName source c = .ok all) : (all.map (·.2.name)).Nodup := by
  obtain ⟨entries, blocks, hlisted, hblocks, hsplit⟩ := labelled_eq_ok hall
  obtain ⟨tables, htables, hmodules⟩ := exists_tables hblocks
  have hscripts := (patchesStand_of_labelled hnames hlisted hall).sublist_names
  have hothers : all.filter (fun a => !decide (a.1 = .patch)) =
      (g.dumps sourceName source).map (Kind.dump, ·) ++ tables.flatMap g.labelledModules := by
    rw [hsplit, List.filter_append, hmodules]
    simp [List.filter_map, Function.comp_def]
  have hrest := g.sublist_otherNames tables sourceName source
  rw [← hothers] at hrest
  -- the dump is in front of the scripts in the list of all files
  have hwhole := List.perm_middle.nodup_iff.mpr (nodup_fileNames h
    (nodup_tableNames hnames hlisted htables))
  have hparts := (List.filter_append_perm (fun a : Labelled => decide (a.1 = .patch)) all).map
    (·.2.name)
  rw [List.map_append] at hparts
  exact hparts.nodup_iff.mp (hwhole.sublist (hscripts.append hrest))

-- The files of a pass have different names, and so have the classes of its tables. So each file
-- stays in the memory as it is written.
theorem memory_keeps_all (g : Generator) (h : g.config.FilesApart) {sourceName source : String}
    {around : Store.Surroundings} {artifacts : List Artifact}
    (hrender : g.render sourceName source around = .ok artifacts) :
    (artifacts.map (·.name)).Nodup ∧
    resultFrom (g.run Sink.memory sourceName source (.inMemory around)) [] =
      (.ok artifacts, artifacts.map fun a => (a.name, a.fileText)) ∧
    (∃ store tables, Store.load source around = .ok store ∧
      List.Forall₂ (fun entry t => Table.build (store.catalog around.asked) entry.1 entry.2 = .ok t)
        store.listTables tables ∧
      (tables.flatMap Table.classNames).Nodup) ∧
    Function.Injective Naming.classBase ∧ ({} : Config).FilesApart := by
  obtain ⟨store, all, hload, hall, rfl⟩ := render_eq_ok_iff.mp hrender
  have hdiffer := Store.namesDiffer_of_load hload around.asked
  have hnames : ((all.map (·.2)).map (·.name)).Nodup := by
    rw [List.map_map]
    exact nodup_names h hdiffer hall
  obtain ⟨entries, blocks, hlisted, hblocks, -⟩ := labelled_eq_ok hall
  obtain ⟨tables, htables, -⟩ := exists_tables hblocks
  have hclasses := Table.nodup_classNames (nodup_tableNames hdiffer hlisted htables)
  obtain rfl := Except.ok.inj hlisted
  exact ⟨hnames,
    resultFrom_run_eq_ok_iff.mpr ⟨hrender, Sink.reaches_memory (by simpa using hnames)⟩, ⟨store, tables, hload, htables, hclasses⟩, Naming.classBase_injective,
    Config.filesApart_default⟩

-- All kinds of files, under the usual names.
theorem memory_keeps_all_of_currency :
    let g : Generator := ⟨{}, ⟨true, true, true, true⟩, ⟨""⟩, ⟨""⟩⟩
    let schema := "CREATE TABLE CURRENCYFORMATS_V1(ID INTEGER PRIMARY KEY, CURRENCYNAME TEXT, " ++
      "CURRENCY_SYMBOL TEXT)"
    g.config.FilesApart ∧ ∃ artifacts, g.render "t.sql" schema = .ok artifacts ∧
      artifacts.map (·.name) = ["tables_en.sql", "CurrencyTable.h", "CurrencyTable.cpp",
        "CurrencyData.h", "CurrencyData.cpp", "patch_currency.sql", "patch_currency_utf8.sql"] ∧
      resultFrom (g.run Sink.memory "t.sql" schema) [] =
        (.ok artifacts, artifacts.map fun a => (a.name, a.fileText)) := by
  intro g schema
  have hnames : (g.render "t.sql" schema).toOption.map (·.map (·.name)) =
      some ["tables_en.sql", "CurrencyTable.h", "CurrencyTable.cpp", "CurrencyData.h",
        "CurrencyData.cpp", "patch_currency.sql", "patch_currency_utf8.sql"] := by
    decide +kernel
  obtain ⟨artifacts, hrender, hlist⟩ := Option.map_eq_some_iff.mp hnames
  have hrender := eq_ok_of_toOption hrender
  obtain ⟨-, hmemory, -⟩ := memory_keeps_all g Config.filesApart_default hrender
  exact ⟨Config.filesApart_default, artifacts, hrender, hlist, hmemory⟩

end Generator

end TableForge
