import TableForge.CommandLine.Run
import TableForge.Proofs.Files.Directories
import TableForge.Proofs.Generator.Directory
import TableForge.Proofs.Store.Connection

namespace TableForge

section During

variable {σ α : Type} {context : Option String} {action : ExceptT Error (StateM σ) α} {s left : σ}

theorem Project.runFrom_during :
    runFrom (during context action).run s =
      ((resultFrom action s).1.mapError fun error => ⟨context, error⟩, (resultFrom action s).2) := by
  show runFrom (Except.mapError _ <$> action.run) s = _
  rfl

theorem Project.runFrom_during_eq_ok_iff {a : α} :
    runFrom (during context action).run s = (.ok a, left) ↔ resultFrom action s = (.ok a, left) := by
  rw [runFrom_during]
  rcases resultFrom action s with ⟨e | b, s'⟩ <;> simp [Except.mapError]

end During

-- A write into a directory that fails leaves the tree as it was.
theorem Sink.failsCleanly_directory (path : String) :
    (Sink.directory path : Sink (StateM Tree)).FailsCleanly := by
  intro a t e left hwrite
  obtain ⟨error, hrun⟩ := run_of_directory_eq_error hwrite
  exact Tree.eq_of_unreplaced hrun

-- What the steps in front of the first write give: the configuration, the tree with the output
-- directory, the header templates, the schema, the catalog and the tree that its script leaves, and
-- the artifacts.
structure Preparation where
  config : Config
  ready : Tree
  tableHeader : Header
  dataHeader : Header
  source : String
  catalog : Catalog
  executed : Tree
  artifacts : List Artifact

def Preparation.generator (r : Preparation) (k : Kinds) : Generator :=
  ⟨r.config, k, r.tableHeader, r.dataHeader⟩

namespace Project

variable {p : Project} {time : Timestamp} {host : Host (StateM Tree)} {opened : Tree}
  {r : Preparation}

-- A configuration with the output directory that a project asks for.
def chooses (p : Project) (read : Config) : Config :=
  { read with outputDir := p.outputDir.getD read.outputDir }

-- What a project reads its configuration from, before the first write.
def Reads (p : Project) (t : Tree) (read : Config) : Prop :=
  match p.configFile with
  | none => read = {}
  | some path => resultFrom (Config.load path) t = (.ok read, t)

structure Prepares (p : Project) (time : Timestamp) (engine : Engine (StateM Tree)) (opened : Tree)
    (r : Preparation) : Prop where
  configuration : ∃ read, p.Reads opened read ∧ r.config = p.chooses read
  directory : runFrom (FileSystem.makeDirectories r.config.outputDir) opened = (.ok (), r.ready)
  headers : resultFrom (r.config.loadHeaders time) r.ready =
    (.ok (r.tableHeader, r.dataHeader), r.ready)
  schema : r.ready.readFile p.schema = .ok r.source
  execution : resultFrom (engine r.source) r.ready = (.ok r.catalog, r.executed)
  rendering : (r.generator p.kinds).ofSchema ((Path.fileName? p.schema).getD p.schema) r.source
    r.catalog = .ok r.artifacts

theorem runFrom_config_eq_ok_iff {config : Config} {left : Tree} :
    runFrom p.config.run opened = (.ok config, left) ↔
      left = opened ∧ ∃ read, p.Reads opened read ∧ config = p.chooses read := by
  rw [Project.config]
  cases hfile : p.configFile with
  | none =>
    show (Except.ok (p.chooses {}), opened) = _ ↔ _
    simp [Reads, hfile, eq_comm, and_comm]
  | some path =>
    show runFrom (during _ (Config.load path) >>= fun read => pure (p.chooses read)).run opened = _ ↔ _
    simp only [runFrom_run_bind_eq_ok_iff, runFrom_during_eq_ok_iff, Reads, hfile]
    constructor
    · rintro ⟨read, s', hload, hchosen⟩
      have hsame : s' = opened :=
        (congrArg (·.2) hload).symm.trans (Config.onlyReads_load path opened)
      obtain ⟨hconfig, rfl⟩ := Prod.mk.inj hchosen
      rw [hsame] at hload ⊢
      exact ⟨rfl, read, hload, (Except.ok.inj hconfig).symm⟩
    · rintro ⟨rfl, read, hload, rfl⟩
      exact ⟨read, _, hload, rfl⟩

theorem onlyReads_config (p : Project) :
    OnlyReads (p.config : ExceptT Failure (StateM Tree) Config) := by
  rw [Project.config]
  cases p.configFile with
  | none => exact .pure _
  | some path =>
    refine OnlyReads.bind (fun t => ?_) fun _ => .pure _
    rw [runFrom_during]
    exact Config.onlyReads_load path t

theorem resultFrom_ofDirectory {path : String} {t : Tree} :
    resultFrom (Sink.ofDirectory path) t =
      ((match (runFrom (FileSystem.makeDirectories path) t).1 with
        | .ok () => .ok (Sink.directory path)
        | .error cause => .error (.file path cause)),
      (runFrom (FileSystem.makeDirectories path) t).2) := by
  show runFrom (FileSystem.makeDirectories path >>= _) t = _
  rw [runFrom_bind]
  rcases runFrom (FileSystem.makeDirectories path) t with ⟨_ | _, left⟩ <;> rfl

theorem resultFrom_ofDirectory_eq_ok_iff {path : String} {t left : Tree}
    {sink : Sink (StateM Tree)} :
    resultFrom (Sink.ofDirectory path) t = (.ok sink, left) ↔
      sink = Sink.directory path ∧
        runFrom (FileSystem.makeDirectories path) t = (.ok (), left) := by
  rw [resultFrom_ofDirectory]
  rcases runFrom (FileSystem.makeDirectories path) t with ⟨_ | _, s'⟩ <;> simp [eq_comm]

theorem resultFrom_runFile {g : Generator} {sink : Sink (StateM Tree)} {schema : String} {t : Tree} :
    resultFrom (g.runFile sink host schema) t =
      match t.readFile schema with
      | .ok source => resultFrom (g.run sink ((Path.fileName? schema).getD schema) source host) t
      | .error cause => (.error (.file schema cause), t) := by
  have hread : resultFrom (readText schema) t =
      ((t.readFile schema).mapError fun cause => .file schema cause, t) := rfl
  rw [Generator.runFile]
  cases hsource : t.readFile schema with
  | error cause =>
    rw [hsource] at hread
    exact resultFrom_bind_of_error hread
  | ok source =>
    rw [hsource] at hread
    exact resultFrom_bind_of_ok hread

-- The tree where the writes begin.
def noted (p : Project) (host : Host (StateM Tree)) (r : Preparation) : Tree :=
  (r.generator p.kinds).afterNotice host r.catalog r.executed

-- A project that is prepared comes to its writes.
theorem Prepares.runFrom_run (host : Host (StateM Tree))
    (h : p.Prepares time host.engine opened r) :
    runFrom (p.run time host).run opened =
      match resultFrom (r.artifacts.forM (Sink.directory r.config.outputDir)) (p.noted host r) with
      | (.ok (), left) => (.ok (r.config, r.artifacts), left)
      | (.error e, left) => (.error ⟨some ("failed to generate from " ++ p.schema), e⟩, left) := by
  have hconfig : runFrom p.config.run opened = (.ok r.config, opened) :=
    runFrom_config_eq_ok_iff.mpr ⟨rfl, h.configuration⟩
  have hsink (context : Option String) :
      runFrom (during context (Sink.ofDirectory r.config.outputDir)).run opened =
        (.ok (Sink.directory r.config.outputDir), r.ready) :=
    runFrom_during_eq_ok_iff.mpr (resultFrom_ofDirectory_eq_ok_iff.mpr ⟨rfl, h.directory⟩)
  have hheaders (context : Option String) :
      runFrom (during context (r.config.loadHeaders time)).run r.ready =
        (.ok (r.tableHeader, r.dataHeader), r.ready) :=
    runFrom_during_eq_ok_iff.mpr h.headers
  have hrendered : resultFrom ((r.generator p.kinds).renderOn host
      ((Path.fileName? p.schema).getD p.schema) r.source) r.ready =
        (.ok r.artifacts, p.noted host r) := by
    rw [Generator.resultFrom_renderOn, h.execution]
    dsimp only
    rw [h.rendering]
    rfl
  have hfile : resultFrom ((r.generator p.kinds).runFile (Sink.directory r.config.outputDir) host
      p.schema) r.ready =
        resultFrom (r.artifacts.forM (Sink.directory r.config.outputDir) >>= fun _ =>
          pure r.artifacts) (p.noted host r) := by
    rw [resultFrom_runFile, h.schema]
    exact resultFrom_bind_of_ok hrendered
  rw [Preparation.generator] at hfile
  simp only [Project.run, runFrom_run_bind, hconfig, hsink, hheaders, runFrom_during, hfile]
  rcases hwritten : resultFrom (r.artifacts.forM (Sink.directory r.config.outputDir))
    (p.noted host r) with ⟨e | u, left⟩
  · rw [resultFrom_bind_of_error hwritten]
    rfl
  · rw [resultFrom_bind_of_ok hwritten]
    rfl

-- What a project leaves that fails before its first write: directories that were made, and then
-- what the script of the schema has done.
def LeavesEarly (p : Project) (engine : Engine (StateM Tree)) (t left : Tree) : Prop :=
  ∃ ready, t.Grows ready ∧ (left = ready ∨
    ∃ source, ready.readFile p.schema = .ok source ∧ left = (resultFrom (engine source) ready).2)

theorem LeavesEarly.of_grows {engine : Engine (StateM Tree)} {t t' left : Tree}
    (hgrows : t.Grows t') (h : p.LeavesEarly engine t' left) : p.LeavesEarly engine t left := by
  obtain ⟨ready, hready, hleft⟩ := h
  exact ⟨ready, hgrows.trans hready, hleft⟩

-- An action fails, and has not come to the first write.
def FailsEarly {α : Type} (p : Project) (host : Host (StateM Tree))
    (x : ExceptT Failure (StateM Tree) α) (t : Tree) : Prop :=
  ∃ failure left, runFrom x.run t = (.error failure, left) ∧ p.LeavesEarly host.engine t left

theorem FailsEarly.bind {α β : Type} {x : ExceptT Failure (StateM Tree) α}
    {f : α → ExceptT Failure (StateM Tree) β} {t : Tree} (hx : t.Grows (runFrom x.run t).2)
    (hf : ∀ a reached, runFrom x.run t = (.ok a, reached) → p.FailsEarly host (f a) reached) :
    p.FailsEarly host (x >>= f) t := by
  rw [FailsEarly, runFrom_run_bind]
  rcases hrun : runFrom x.run t with ⟨failure | a, reached⟩
  · rw [hrun] at hx
    exact ⟨failure, reached, rfl, reached, hx, .inl rfl⟩
  · rw [hrun] at hx
    obtain ⟨failure, left, hfails, hleaves⟩ := hf a reached hrun
    exact ⟨failure, left, hfails, hleaves.of_grows hx⟩

-- A schema that does not come to its artifacts fails where it is read, executed or rendered.
theorem runFile_failsEarly {g : Generator} {t : Tree} (sink : Sink (StateM Tree))
    (h : ∀ source c executed artifacts, t.readFile p.schema = .ok source →
      resultFrom (host.engine source) t = (.ok c, executed) →
      g.ofSchema ((Path.fileName? p.schema).getD p.schema) source c ≠ .ok artifacts) :
    ∃ e left, resultFrom (g.runFile sink host p.schema) t = (.error e, left) ∧
      p.LeavesEarly host.engine t left := by
  rw [resultFrom_runFile]
  cases hschema : t.readFile p.schema with
  | error cause => exact ⟨_, t, rfl, t, .refl t, .inl rfl⟩
  | ok source =>
    have hrendered : resultFrom (g.renderOn host ((Path.fileName? p.schema).getD p.schema) source)
      t = _ := Generator.resultFrom_renderOn host
    rcases hexecution : resultFrom (host.engine source) t with ⟨e | c, executed⟩
    · rw [hexecution] at hrendered
      exact ⟨e, executed, resultFrom_bind_of_error hrendered, t, .refl t,
        .inr ⟨source, hschema, by rw [hexecution]⟩⟩
    rw [hexecution] at hrendered
    dsimp only at hrendered
    cases hrendering : g.ofSchema ((Path.fileName? p.schema).getD p.schema) source c with
    | error e =>
      rw [hrendering] at hrendered
      exact ⟨e, executed, resultFrom_bind_of_error hrendered, t, .refl t,
        .inr ⟨source, hschema, by rw [hexecution]⟩⟩
    | ok artifacts => exact absurd hrendering (h source c executed artifacts hschema hexecution)

theorem failsEarly_of_not_prepares (host : Host (StateM Tree))
    (h : ¬∃ r, p.Prepares time host.engine opened r) :
    p.FailsEarly host (p.run time host) opened := by
  refine .bind (by rw [onlyReads_config]; exact .refl _) fun config s' hconfig => ?_
  obtain ⟨rfl, hconfiguration⟩ := runFrom_config_eq_ok_iff.mp hconfig
  refine .bind ?_ fun sink ready hsink => ?_
  · rw [runFrom_during, resultFrom_ofDirectory]
    exact Tree.OnlyGrows.makeDirectories _ _
  obtain ⟨rfl, hdirectory⟩ :=
    resultFrom_ofDirectory_eq_ok_iff.mp (runFrom_during_eq_ok_iff.mp hsink)
  have hsame : (resultFrom (config.loadHeaders time) ready).2 = ready :=
    Config.onlyReads_loadHeaders config time ready
  refine .bind ?_ fun ⟨table, data⟩ s' hheaders => ?_
  · rw [runFrom_during, hsame]
    exact .refl _
  rw [runFrom_during_eq_ok_iff] at hheaders
  rw [hheaders] at hsame
  obtain rfl := hsame
  let g : Generator := ⟨config, p.kinds, table, data⟩
  have hfile : ∃ e left, resultFrom (g.runFile (Sink.directory config.outputDir) host p.schema) s' =
      (.error e, left) ∧ p.LeavesEarly host.engine s' left :=
    runFile_failsEarly _ fun source c executed artifacts hschema hexecution hrendering =>
      h ⟨⟨config, s', table, data, source, c, executed, artifacts⟩, hconfiguration, hdirectory,
        hheaders, hschema, hexecution, hrendering⟩
  obtain ⟨e, left, hfile, hleaves⟩ := hfile
  have hfails : runFrom (during (some ("failed to generate from " ++ p.schema))
      (g.runFile (Sink.directory config.outputDir) host p.schema)).run s' =
        (.error ⟨some ("failed to generate from " ++ p.schema), e⟩, left) := by
    rw [runFrom_during, hfile]
    rfl
  refine ⟨⟨some ("failed to generate from " ++ p.schema), e⟩, left, ?_, hleaves⟩
  rw [runFrom_run_bind]
  exact hfails ▸ rfl

end Project

namespace CommandLine

namespace Options

variable {o : Options} {time : Timestamp} {engine : Engine (StateM Tree)} {line : Notice → String}
  {t opened left : Tree} {r : Preparation}

-- The trace file of a run, if there is to be one, is there and can be written.
def OpensTrace (o : Options) (t opened : Tree) : Prop :=
  match o.traceFile with
  | none => opened = t
  | some path => t.openTrace path = .ok opened

-- Every step in front of the first write succeeds.
def Prepares (o : Options) (time : Timestamp) (engine : Engine (StateM Tree)) (t : Tree)
    (r : Preparation) : Prop :=
  ∃ opened, o.OpensTrace t opened ∧ o.project.Prepares time engine opened r

-- The tree with a text in the log.
def logged (o : Options) (text : String) (t : Tree) : Tree :=
  match o.traceFile with
  | none => t.print text
  | some path => t.append path text

-- The tree where the writes begin. The log tells by then if there is no table to be patched.
def noted (o : Options) (line : Notice → String) (r : Preparation) : Tree :=
  if (r.generator o.kinds).lacksPatchTable r.catalog then
    o.logged (line (.missingPatchTable r.config.patch.table)) r.executed
  else r.executed

-- Every step of a run succeeds.
def Completes (o : Options) (time : Timestamp) (engine : Engine (StateM Tree))
    (line : Notice → String) (t : Tree) (artifacts : List Artifact) (left : Tree) : Prop :=
  ∃ r, o.Prepares time engine t r ∧ artifacts = r.artifacts ∧
    (Sink.directory r.config.outputDir).Reaches (o.noted line r) artifacts left

-- No file is made, changed or removed, apart from a trace file that is made.
def KeepsFiles (o : Options) (t left : Tree) : Prop :=
  ∀ location, left.lookup? location = t.lookup? location ∨
    t.lookup? location = none ∧ (left.lookup? location = some .directory ∨
      ∃ path, o.traceFile = some path ∧ t.locate path = .ok location ∧
        left.lookup? location = some (.file ""))

theorem KeepsFiles.of_grows (h : t.Grows left) : o.KeepsFiles t left := by
  intro location
  rcases h.entry_or location with hsame | ⟨hnone, hdirectory⟩
  · exact .inl hsame
  · exact .inr ⟨hnone, .inl hdirectory⟩

theorem KeepsFiles.of_opensTrace (htrace : o.OpensTrace t opened) (h : opened.Grows left) :
    o.KeepsFiles t left := by
  rw [OpensTrace] at htrace
  cases hpath : o.traceFile with
  | none =>
    rw [hpath] at htrace
    obtain rfl := htrace
    exact .of_grows h
  | some path =>
    rw [hpath] at htrace
    rcases Tree.openTrace_eq_ok htrace with rfl | ⟨place, hplace, hnone, rfl⟩
    · exact .of_grows h
    intro location
    have hentry := h.entry_or location
    rw [Tree.lookup?_put (Tree.ne_nil_of_lookup? (t := t) (by simp [hnone]))] at hentry
    by_cases hlocation : location = place
    · subst hlocation
      rw [if_pos rfl] at hentry
      rcases hentry with hsame | ⟨hmissing, -⟩
      · exact .inr ⟨hnone, .inr ⟨path, hpath, hplace, hsame⟩⟩
      · cases hmissing
    · rw [if_neg hlocation] at hentry
      rcases hentry with hsame | ⟨hmissing, hdirectory⟩
      · exact .inl hsame
      · exact .inr ⟨hmissing, .inl hdirectory⟩

theorem project_noted : o.project.noted (o.host engine line) r = o.noted line r := by
  rw [Project.noted, noted, Generator.afterNotice]
  refine if_congr Iff.rfl ?_ rfl
  show (runFrom (o.log _) r.executed).2 = _
  rw [log, logged]
  cases o.traceFile <;> rfl

theorem runFrom_run (h : o.OpensTrace t opened) :
    runFrom (o.run time engine line) t =
      match runFrom (o.project.run time (o.host engine line)).run opened with
      | (.ok (_, artifacts), left) => ({ code := 0, stdout := summary artifacts }, left)
      | (.error failure, left) => (failed failure.messages, left) := by
  rw [OpensTrace] at h
  rw [Options.run]
  cases hpath : o.traceFile with
  | none =>
    rw [hpath] at h
    obtain rfl := h
    simp only [pure_bind, runFrom_bind]
    rcases runFrom (o.project.run time (o.host engine line)).run opened with ⟨_ | _, left⟩ <;> rfl
  | some path =>
    rw [hpath] at h
    have hopened : runFrom (FileSystem.openTrace path) t = (.ok (), opened) :=
      Tree.runFrom_change_eq_ok_iff.mpr h
    simp only [runFrom_bind, hopened]
    rcases runFrom (o.project.run time (o.host engine line)).run opened with ⟨_ | _, left⟩ <;> rfl

-- A run whose trace file cannot be opened ends there.
theorem runFrom_run_of_not_opensTrace (time : Timestamp) (engine : Engine (StateM Tree))
    (line : Notice → String) (h : ¬∃ opened, o.OpensTrace t opened) :
    ∃ cause : FileCause, runFrom (o.run time engine line) t = (failed [cause.message], t) := by
  simp only [OpensTrace] at h
  rw [Options.run]
  cases hpath : o.traceFile with
  | none => exact absurd ⟨t, by rw [hpath]⟩ h
  | some path =>
    rw [hpath] at h
    rcases hopen : runFrom (Tree.change (·.openTrace path)) t with ⟨cause | u, left⟩
    · obtain ⟨-, rfl⟩ := Tree.runFrom_change_eq_error_iff.mp hopen
      refine ⟨cause, ?_⟩
      show runFrom (Tree.change (·.openTrace path) >>= _) left = _
      rw [runFrom_bind, hopen]
      rfl
    · exact absurd ⟨left, Tree.runFrom_change_eq_ok_iff.mp hopen⟩ h

-- A run that is prepared succeeds when every write does. Whether or not it succeeds, it leaves what
-- a part of the artifacts, taken from the front, brings.
theorem runFrom_run_of_prepares (line : Notice → String) (h : o.Prepares time engine t r) :
    (∃ failure : Failure, ∃ written left,
      runFrom (o.run time engine line) t = (failed failure.messages, left) ∧
      written <+: r.artifacts ∧
      (Sink.directory r.config.outputDir).Reaches (o.noted line r) written left ∧
      ¬∃ left, (Sink.directory r.config.outputDir).Reaches (o.noted line r) r.artifacts left) ∨
    ∃ left,
      runFrom (o.run time engine line) t = ({ code := 0, stdout := summary r.artifacts }, left) ∧
      (Sink.directory r.config.outputDir).Reaches (o.noted line r) r.artifacts left := by
  obtain ⟨opened, htrace, hprepares⟩ := h
  rw [runFrom_run htrace, Project.Prepares.runFrom_run (o.host engine line) hprepares,
    project_noted]
  rcases hwritten : resultFrom (r.artifacts.forM (Sink.directory r.config.outputDir))
    (o.noted line r) with ⟨e | u, left⟩
  · obtain ⟨written, before, hreaches, a, rest, hsplit, ha⟩ :=
      Sink.resultFrom_forM_eq_error_iff.mp hwritten
    obtain rfl := Sink.failsCleanly_directory _ a before e left ha
    refine .inl ⟨_, written, left, rfl, ?_, hreaches, fun ⟨other, hall⟩ => ?_⟩
    · rw [hsplit]
      exact List.prefix_append _ _
    · rw [Sink.resultFrom_forM_eq_ok_iff.mpr hall] at hwritten
      cases (Prod.mk.inj hwritten).1
  · exact .inr ⟨left, rfl, Sink.resultFrom_forM_eq_ok_iff.mp hwritten⟩

theorem Prepares.keepsFiles (h : o.Prepares time engine t r) : o.KeepsFiles t r.ready := by
  obtain ⟨opened, htrace, hprepares⟩ := h
  have hgrows := Tree.OnlyGrows.makeDirectories r.config.outputDir opened
  rw [hprepares.directory] at hgrows
  exact .of_opensTrace htrace hgrows

-- What a run leaves that fails before its first write: files as they were, and then what the script
-- of the schema has done.
def LeavesEarly (o : Options) (engine : Engine (StateM Tree)) (t left : Tree) : Prop :=
  ∃ ready, o.KeepsFiles t ready ∧ (left = ready ∨
    ∃ source, ready.readFile o.schema = .ok source ∧ left = (resultFrom (engine source) ready).2)

theorem runFrom_run_of_not_prepares (line : Notice → String)
    (h : ¬∃ r, o.Prepares time engine t r) :
    ∃ messages left, runFrom (o.run time engine line) t = (failed messages, left) ∧
      o.LeavesEarly engine t left := by
  by_cases htrace : ∃ opened, o.OpensTrace t opened
  · obtain ⟨opened, htrace⟩ := htrace
    have hproject : ¬∃ r, o.project.Prepares time engine opened r :=
      fun ⟨r, hprepares⟩ => h ⟨r, opened, htrace, hprepares⟩
    obtain ⟨failure, left, hfails, ready, hgrows, hleft⟩ :=
      Project.failsEarly_of_not_prepares (o.host engine line) hproject
    refine ⟨failure.messages, left, ?_, ready, .of_opensTrace htrace hgrows, hleft⟩
    rw [runFrom_run htrace, hfails]
  · obtain ⟨cause, hfails⟩ := runFrom_run_of_not_opensTrace time engine line htrace
    exact ⟨_, t, hfails, t, .of_grows (.refl t), .inl rfl⟩

section OnFiles

variable {around : Store.Surroundings}

theorem snd_resultFrom_onFiles (source : String) (t : Tree) :
    (resultFrom (Engine.onFiles around source) t).2 =
      (runFrom (Store.execute around source).run t).2 := by
  show (runFrom (Store.execute around source >>= fun store => pure (store.catalog around.asked)).run
    t).2 = _
  rw [runFrom_run_bind]
  rcases runFrom (Store.execute around source).run t with ⟨_ | _, left⟩ <;> rfl

-- What a script makes are the empty files of the databases that it attaches.
theorem LeavesEarly.onFiles (h : o.LeavesEarly (.onFiles around) t left) :
    ∃ ready, o.KeepsFiles t ready ∧ (left = ready ∨ ∃ source, ready.readFile o.schema = .ok source ∧
      ready.Gains (ready.IsDatabase (Script.attachedPaths source)) left) := by
  obtain ⟨ready, hkeeps, hleft | ⟨source, hsource, rfl⟩⟩ := h
  · exact ⟨ready, hkeeps, .inl hleft⟩
  · refine ⟨ready, hkeeps, .inr ⟨source, hsource, ?_⟩⟩
    rw [snd_resultFrom_onFiles]
    exact Store.gains_execute source

-- A schema that attaches none keeps all files.
theorem LeavesEarly.keepsFiles (h : o.LeavesEarly (.onFiles around) t left)
    (hnone : ∀ ready source, o.KeepsFiles t ready → ready.readFile o.schema = .ok source →
      Script.attachedPaths source = []) : o.KeepsFiles t left := by
  obtain ⟨ready, hkeeps, rfl | ⟨source, hsource, rfl⟩⟩ := h
  · exact hkeeps
  · rw [snd_resultFrom_onFiles, Store.execute_of_statements (hnone ready source hkeeps hsource)]
    exact hkeeps

end OnFiles

end Options

-- A run succeeds exactly when every one of its steps does, and then it tells about each artifact
-- in the order of the writes. A run that fails tells nothing on its output. If it does not come to
-- its writes all files are kept but for what the script itself does with files, and otherwise it
-- leaves what a part of the artifacts brings, behind the script and a line of the log.
theorem run_outcome {args : List String} {o : Options} (h : Options.ofArguments args = .ok o)
    (time : Timestamp) (engine : Engine (StateM Tree)) (line : Notice → String) (t : Tree) :
    ∃ outcome left, runFrom (run args time engine line) t = (outcome, left) ∧
      (∀ artifacts left', o.Completes time engine line t artifacts left' →
        left' = left ∧ outcome = {
          code := 0
          stdout := Text.unlines ((artifacts.map fun a =>
            "Generate " ++ a.name ++ " (" ++ a.description ++ ")") ++ ["Done"])
          stderr := "" }) ∧
      ((¬∃ artifacts left', o.Completes time engine line t artifacts left') →
        outcome.code = 1 ∧ outcome.stdout = "") ∧
      ((¬∃ r, o.Prepares time engine t r) → o.LeavesEarly engine t left) ∧
      ∀ r, o.Prepares time engine t r → o.KeepsFiles t r.ready ∧
        resultFrom (engine r.source) r.ready = (.ok r.catalog, r.executed) ∧
        ∃ written, written <+: r.artifacts ∧
          (Sink.directory r.config.outputDir).Reaches (o.noted line r) written left := by
  rcases hrun : runFrom (run args time engine line) t with ⟨outcome, left⟩
  refine ⟨outcome, left, rfl, ?_⟩
  have hoptions : runFrom (o.run time engine line) t = (outcome, left) := by
    rw [← hrun, run, h]
  refine ⟨fun artifacts left' hcompletes => ?_, fun hfails => ?_, fun hearly => ?_,
    fun r hprepares => ⟨hprepares.keepsFiles, hprepares.choose_spec.2.execution, ?_⟩⟩
  · obtain ⟨r, hprepares, rfl, hreaches⟩ := hcompletes
    rcases Options.runFrom_run_of_prepares line hprepares with
      ⟨_, _, _, -, -, -, hnone⟩ | ⟨last, hends, hlast⟩
    · exact absurd ⟨left', hreaches⟩ hnone
    · obtain ⟨rfl, rfl⟩ := Prod.mk.inj (hoptions.symm.trans hends)
      rw [← Sink.resultFrom_forM_eq_ok_iff] at hreaches hlast
      exact ⟨(Prod.mk.inj (hreaches.symm.trans hlast)).2, rfl⟩
  · by_cases hprepares : ∃ r, o.Prepares time engine t r
    · obtain ⟨r, hprepares⟩ := hprepares
      rcases Options.runFrom_run_of_prepares line hprepares with
        ⟨failure, _, _, hends, -⟩ | ⟨last, -, hlast⟩
      · obtain ⟨rfl, -⟩ := Prod.mk.inj (hoptions.symm.trans hends)
        exact ⟨rfl, rfl⟩
      · exact absurd ⟨_, last, r, hprepares, rfl, hlast⟩ hfails
    · obtain ⟨messages, _, hends, -⟩ := Options.runFrom_run_of_not_prepares line hprepares
      obtain ⟨rfl, -⟩ := Prod.mk.inj (hoptions.symm.trans hends)
      exact ⟨rfl, rfl⟩
  · obtain ⟨messages, last, hends, hleaves⟩ :=
      Options.runFrom_run_of_not_prepares line hearly
    obtain ⟨-, rfl⟩ := Prod.mk.inj (hoptions.symm.trans hends)
    exact hleaves
  · rcases Options.runFrom_run_of_prepares line hprepares with
      ⟨failure, written, last, hends, hfront, hreaches, -⟩ | ⟨last, hends, hreaches⟩
    · obtain ⟨-, rfl⟩ := Prod.mk.inj (hoptions.symm.trans hends)
      exact ⟨written, hfront, hreaches⟩
    · obtain ⟨-, rfl⟩ := Prod.mk.inj (hoptions.symm.trans hends)
      exact ⟨r.artifacts, List.prefix_refl _, hreaches⟩

-- A table without a key ends the run, but the database that was attached before is left.
theorem run_outcome_of_attached_database :
    let args := ["a.sql"]
    let o : Options := { schema := "a.sql" }
    let time : Timestamp := ⟨2024, 1, 2, 3, 4, 5, 0⟩
    let schema := "ATTACH DATABASE 'x.db' AS x; CREATE TABLE A(X TEXT)"
    let t : Tree := { entries := [(["a.sql"], .file schema)] }
    Options.ofArguments args = .ok o ∧ ∃ outcome left,
      runFrom (run args time .onFiles Notice.line) t = (outcome, left) ∧
      outcome.code = 1 ∧ outcome.stdout = "" ∧
      (¬∃ r, o.Prepares time .onFiles t r) ∧ o.LeavesEarly .onFiles t left ∧
      left.lookup? ["x.db"] = some (.file "") ∧ ¬o.KeepsFiles t left := by
  intro args o time schema t
  have hargs : Options.ofArguments args = .ok o := by decide +kernel
  have hmade : (runFrom (run args time .onFiles Notice.line) t).2.lookup? ["x.db"] =
    some (.file "") := by decide +kernel
  have hearly : ¬∃ r, o.Prepares time .onFiles t r := by
    rintro ⟨⟨config, ready, table, data, source, catalog, executed, artifacts⟩, _, rfl,
      ⟨read, rfl, rfl⟩, hdirectory, -, hschema, hexecution, hrendering⟩
    have hstays : runFrom (FileSystem.makeDirectories ".") t = (.ok (), t) := by decide +kernel
    obtain rfl : t = ready := (Prod.mk.inj (hstays.symm.trans hdirectory)).2
    have hread : t.readFile "a.sql" = .ok schema := by decide +kernel
    obtain rfl : schema = source := Except.ok.inj (hread.symm.trans hschema)
    -- the only table of the catalog has no model
    have hcatalog : (resultFrom (Engine.onFiles {} schema) t).1.toOption.map (fun c =>
        (c.tables.toOption, (Table.build c "A" "CREATE TABLE A(X TEXT)").toOption)) =
          some (some [("A", "CREATE TABLE A(X TEXT)")], none) := by decide +kernel
    rw [hexecution] at hcatalog
    obtain ⟨htables, hbuild⟩ := Prod.mk.inj (Option.some.inj hcatalog)
    obtain ⟨_, hmade, -⟩ := ok_of_bind hrendering
    obtain ⟨tables, hlisted, hmade⟩ := ok_of_bind hmade
    rw [eq_ok_of_toOption htables] at hlisted
    obtain rfl := Except.ok.inj hlisted
    obtain ⟨_, hmade, -⟩ := ok_of_bind hmade
    obtain ⟨_, hmade, -⟩ := ok_of_bind (List.mapM_cons.symm.trans hmade)
    obtain ⟨model, hmodel, -⟩ := ok_of_bind hmade
    rw [hmodel] at hbuild
    cases hbuild
  obtain ⟨outcome, left, hrun, -, hfails, hleaves, -⟩ :=
    run_outcome hargs time .onFiles Notice.line t
  rw [hrun] at hmade
  obtain ⟨hcode, hstdout⟩ := hfails fun ⟨_, _, r, hprepares, _⟩ => hearly ⟨r, hprepares⟩
  refine ⟨hargs, outcome, left, hrun, hcode, hstdout, hearly, hleaves hearly, hmade,
    fun hkeeps => ?_⟩
  have hnone : t.lookup? ["x.db"] = none := by decide
  rcases hkeeps ["x.db"] with hsame | ⟨-, hdirectory | ⟨path, htrace, -⟩⟩
  · rw [hmade, hnone] at hsame
    cases hsame
  · rw [hmade] at hdirectory
    cases hdirectory
  · cases htrace

-- Where the log tells that no table is patched.
example :
    let time : Timestamp := ⟨2024, 1, 2, 3, 4, 5, 0⟩
    let t : Tree := { entries := [(["a.sql"], .file "CREATE TABLE A(ID INTEGER PRIMARY KEY)")] }
    let line := "patch table not found in schema, no patch written table=CURRENCYFORMATS_V1\n"
    (runFrom (run ["-p", "a.sql"] time) t).2.console = line ∧
      (runFrom (run ["-p", "--tracing-output", "log", "a.sql"] time) t).2.text? "log" = some line := by
  decide +kernel

end CommandLine

end TableForge
