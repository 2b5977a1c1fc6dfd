import TableForge.Proofs.Store.Listing
import TableForge.Proofs.Table.Fields
import TableForge.Proofs.Table.Seed

namespace TableForge

-- A seed statement gives columns, taken in their order, the values that a row has under their
-- names.
def SeedInsert.Fills (s : SeedInsert) (columns : List String) (row : Row) : Prop :=
  s.literals.length = columns.length ∧
    columns.zip s.literals = row.map fun (name, v) => (name, Literal.ofValue v)

namespace Table

-- Every row has one value for each field, under its name and in the order of the fields.
def RowsFit (t : Table) : Prop :=
  ∀ row ∈ t.rows, row.map (·.1) = t.fields.declared.map (·.name)

-- Every seed statement fills just these columns from its row.
def SeedsFill (t : Table) (columns : List String) : Prop :=
  List.Forall₂ (fun row seed => seed.Fills columns row) t.rows t.seeds

theorem fills_seedOf_iff (t : Table) (columns : List String) (row : Row) :
    (t.seedOf row).Fills columns row ↔ row.map (·.1) = columns := by
  have hpairs : (row.map (·.1)).zip (t.seedOf row).literals =
      row.map fun (name, v) => (name, Literal.ofValue v) := by
    rw [seedOf, Row.values, List.map_map, List.zip_map']
    rfl
  constructor
  · rintro ⟨hlength, hzip⟩
    have hnames : (columns.zip (t.seedOf row).literals).map (·.1) = columns :=
      List.map_fst_zip (Nat.le_of_eq hlength.symm)
    rw [← hnames, hzip, List.map_map]
    rfl
  · rintro rfl
    exact ⟨by simp [seedOf, Row.values], hpairs⟩

theorem seedsFill_iff (t : Table) (columns : List String) :
    t.SeedsFill columns ↔ ∀ row ∈ t.rows, row.map (·.1) = columns := by
  have hseeds : t.seeds = t.rows.map t.seedOf := rfl
  rw [SeedsFill, hseeds, List.forall₂_map_right_iff, List.forall₂_same]
  simp only [fills_seedOf_iff]

section Read

variable {s : Store} {name definition : String} {t : Table}

-- Only a stored table has a key, so that no other kind of object is accepted.
theorem exists_read {o : Occasion} (h : build (s.catalog o) name definition = .ok t) :
    ∃ u ∈ s.tables, s.source? ⟨none, name⟩ = some (.inl u) ∧
      t.fields.declared.map (·.name) = u.insertable ∧ s.listRows o name = .ok t.rows := by
  obtain ⟨columns, fields, hcolumns, hfields, hkeyed, hrows⟩ := of_build h
  have hread := forall₂_of_mapM_ok hfields
  -- the key field comes from a column that is part of a key
  obtain ⟨c, hc, hkey⟩ : ∃ c ∈ columns, c.isKey = true := by
    have hmarked : (t.fields.key, true) ∈ fields := by
      have hmem : (t.fields.key, true) ∈ fields.filter (·.2) := by
        rw [KeyedFields.filter_marked hkeyed]
        exact List.mem_singleton_self _
      exact List.mem_of_mem_filter hmem
    obtain ⟨c, hc, hfield⟩ := exists_of_mem_mapM_ok hfields hmarked
    exact ⟨c, hc, (of_fieldOfColumn hfield).2.symm⟩
  have hnames : t.fields.declared.map (·.name) = columns.map (·.name) := by
    rw [KeyedFields.declared_eq hkeyed, List.map_map, eq_comm, ← List.forall₂_eq_eq_eq,
      List.forall₂_map_left_iff, List.forall₂_map_right_iff]
    exact hread.imp fun c field hfield => (of_fieldOfColumn hfield).1.symm
  change s.listColumns o name = .ok columns at hcolumns
  unfold Store.listColumns at hcolumns
  split at hcolumns
  · obtain rfl := Except.ok.inj hcolumns
    simp at hc
  · rename_i u hsource
    obtain rfl := Except.ok.inj hcolumns
    rcases Store.mem_or_keyless_of_source hsource with hu | hkeyless
    · exact ⟨u, hu, hsource, hnames.trans (Store.map_name_tableColumns u), hrows⟩
    · obtain ⟨x, -, rfl⟩ := List.mem_map.mp hc
      simp [hkeyless] at hkey
  · split at hcolumns
    · simp at hcolumns
    · obtain rfl := Except.ok.inj hcolumns
      obtain ⟨x, -, rfl⟩ := List.mem_map.mp hc
      simp at hkey

end Read

-- All names are left when no column is computed, and only then.
theorem map_name_eq_insertable_iff (u : Store.StoredTable) :
    u.columns.map (·.name) = u.insertable ↔ ∀ c ∈ u.columns, c.generated = none := by
  rw [Store.StoredTable.insertable]
  constructor
  · intro h
    have hlength := congrArg List.length h
    rw [List.length_map, List.length_map, eq_comm, List.length_filter_eq_length_iff] at hlength
    exact fun c hc => Option.isNone_iff_eq_none.mp (hlength c hc)
  · intro h
    rw [List.filter_eq_self.mpr fun c hc => Option.isNone_iff_eq_none.mpr (h c hc)]

-- The rows of a table have the names of one list, which all of them have to be compared with.
theorem rows_all_iff {rows : List Row} {names columns : List String}
    (h : ∀ row ∈ rows, row.map (·.1) = names) :
    (∀ row ∈ rows, row.map (·.1) = columns) ↔ rows = [] ∨ names = columns := by
  cases rows with
  | nil => simp
  | cons first rest =>
    constructor
    · intro hall
      exact .inr ((h first List.mem_cons_self).symm.trans (hall first List.mem_cons_self))
    · rintro (hnil | rfl) row hrow
      · simp at hnil
      · exact h row hrow

-- Fields leave computed columns out, rows do not. Both are those of the table that is read under
-- the name, which is the listed one unless a temporary table hides it.
theorem rows_fit_iff {script name definition : String} {around : Store.Surroundings}
    {o : Occasion} {s : Store} {t : Table} (hload : Store.load script around = .ok s)
    (hlisted : (name, definition) ∈ s.listTables)
    (hbuild : build (s.catalog o) name definition = .ok t) :
    ∃ listed ∈ s.tables, ∃ read ∈ s.tables,
      listed.temporary = false ∧ listed.name = name ∧ listed.text = definition ∧
      s.source? ⟨none, name⟩ = some (.inl read) ∧
      (s.tableIn? true name = none → read = listed) ∧
      (t.RowsFit ↔ t.rows = [] ∨ ∀ c ∈ read.columns, c.generated = none) ∧
      (t.SeedsFill listed.insertable ↔
        t.rows = [] ∨ read.columns.map (·.name) = listed.insertable) := by
  have hs := Store.sound_of_load hload
  obtain ⟨listed, hmem, hlasts, hname, htext⟩ := Store.exists_of_mem_listTables hlisted
  obtain ⟨read, hread, hsource, hfields, hlistRows⟩ := exists_read hbuild
  have hrows := Store.map_fst_of_listRows hs.rectangular hread hsource hlistRows
  refine ⟨listed, hmem, read, hread, hlasts, hname, htext, hsource, ?_, ?_, ?_⟩
  · subst hname
    exact fun hnone => Store.eq_of_source hs hmem hlasts hnone hsource
  · rw [RowsFit, hfields, rows_all_iff hrows, map_name_eq_insertable_iff]
  · rw [seedsFill_iff, rows_all_iff hrows]

-- A temporary table hides a listed one: the row fits the fields, which are those of the temporary
-- table, and the seed statement does not fill the columns of the listed one.
theorem rows_fit_of_hidden :
    let definition := "CREATE TABLE T(ID INTEGER PRIMARY KEY, A TEXT)"
    let script := definition ++ ";CREATE TEMP TABLE T(N INTEGER PRIMARY KEY);" ++
      "INSERT INTO T DEFAULT VALUES"
    ∃ s t, Store.load script = .ok s ∧ ("T", definition) ∈ s.listTables ∧
      build s.catalog "T" definition = .ok t ∧ t.rows = [[("N", .int 1)]] ∧ t.RowsFit ∧
      ∃ u ∈ s.tables, u.text = definition ∧ u.insertable = ["ID", "A"] ∧
        ¬ t.SeedsFill u.insertable := by
  intro definition script
  -- all that is needed of the run, as closed terms
  have hrun : ((Store.load script).toOption.bind fun s =>
      (build s.catalog "T" definition).toOption.map fun t => (s.listTables, t.rows)) =
      some ([("T", definition)], [[("N", .int 1)]]) := by
    decide +kernel
  have htables : (Store.load script).toOption.map (fun s => s.tables.map fun u =>
      (u.temporary, u.columns.map (·.name), u.insertable)) =
      some [(false, ["ID", "A"], ["ID", "A"]), (true, ["N"], ["N"])] := by
    decide +kernel
  have hhides : (Store.load script).toOption.map (fun s =>
      ((s.source? ⟨none, "T"⟩).bind (·.getLeft?)).map (·.temporary)) = some (some true) := by
    decide +kernel
  obtain ⟨s, hs, hrun⟩ := Option.bind_eq_some_iff.mp hrun
  obtain ⟨t, ht, hrun⟩ := Option.map_eq_some_iff.mp hrun
  obtain ⟨hlist, hrows⟩ := Prod.mk.inj hrun
  simp only [hs, Option.map_some, Option.some.injEq] at htables hhides
  have hload := eq_ok_of_toOption hs
  have hbuild := eq_ok_of_toOption ht
  have hlisted : ("T", definition) ∈ s.listTables := by simp [hlist]
  obtain ⟨listed, hl, read, hr, hlasts, -, htext, hsource, -, hfit, hfill⟩ :=
    rows_fit_iff hload hlisted hbuild
  have hhidden : read.temporary = true := by simpa [hsource] using hhides
  have hcolumns : ∀ u ∈ s.tables,
      (u.temporary = false ∧ u.columns.map (·.name) = ["ID", "A"] ∧ u.insertable = ["ID", "A"]) ∨
        (u.temporary = true ∧ u.columns.map (·.name) = ["N"] ∧ u.insertable = ["N"]) := by
    intro u hu
    have hmem : (u.temporary, u.columns.map (·.name), u.insertable) ∈
        s.tables.map fun u => (u.temporary, u.columns.map (·.name), u.insertable) :=
      List.mem_map.mpr ⟨u, hu, rfl⟩
    rw [htables] at hmem
    simpa using hmem
  obtain ⟨-, -, hids⟩ : listed.temporary = false ∧ listed.columns.map (·.name) = ["ID", "A"] ∧
      listed.insertable = ["ID", "A"] := by simpa [hlasts] using hcolumns listed hl
  obtain ⟨-, hnames, hplain⟩ : read.temporary = true ∧ read.columns.map (·.name) = ["N"] ∧
      read.insertable = ["N"] := by simpa [hhidden] using hcolumns read hr
  have hgenerated := (map_name_eq_insertable_iff read).mp (hnames.trans hplain.symm)
  refine ⟨s, t, hload, hlisted, hbuild, hrows, hfit.mpr (.inr hgenerated), listed, hl, htext, hids,
    fun hall => ?_⟩
  have hcases := hfill.mp hall
  rw [hrows, hnames, hids] at hcases
  simp at hcases

end Table

end TableForge
