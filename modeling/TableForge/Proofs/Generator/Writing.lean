import TableForge.Generator.Sink
import TableForge.Proofs.Computation

namespace TableForge

section Action

variable {σ α β : Type}

-- What an action yields that begins in a state, and the state that it leaves.
def resultFrom (action : ExceptT Error (StateM σ) α) (s : σ) : Except Error α × σ :=
  action.run.run s

variable {x : ExceptT Error (StateM σ) α} {f : α → ExceptT Error (StateM σ) β} {s s' : σ}

theorem resultFrom_bind_of_ok {a : α} (h : resultFrom x s = (.ok a, s')) :
    resultFrom (x >>= f) s = resultFrom (f a) s' := by
  rw [resultFrom] at h
  rw [resultFrom, ExceptT.run_bind, StateT.run_bind, h]
  rfl

theorem resultFrom_bind_of_error {e : Error} (h : resultFrom x s = (.error e, s')) :
    resultFrom (x >>= f) s = (.error e, s') := by
  rw [resultFrom] at h
  rw [resultFrom, ExceptT.run_bind, StateT.run_bind, h]
  rfl

end Action

namespace Sink

variable {σ : Type} {sink : Sink (StateM σ)} {s left : σ} {artifacts : List Artifact} {e : Error}

-- Writing artifacts one after the other brings the sink from one state to another.
inductive Reaches (sink : Sink (StateM σ)) : σ → List Artifact → σ → Prop
  | nil (s : σ) : Reaches sink s [] s
  | cons {s s' left : σ} {a : Artifact} {rest : List Artifact} :
    resultFrom (sink a) s = (.ok (), s') → Reaches sink s' rest left →
      Reaches sink s (a :: rest) left

-- Some of the artifacts are written, and the write of the next one fails.
structure BreaksOff (sink : Sink (StateM σ)) (s : σ) (artifacts written : List Artifact)
    (before : σ) (e : Error) (left : σ) : Prop where
  reaches : sink.Reaches s written before
  fails : ∃ a rest, artifacts = written ++ a :: rest ∧
    resultFrom (sink a) before = (.error e, left)

-- A write that fails changes nothing.
def FailsCleanly (sink : Sink (StateM σ)) : Prop :=
  ∀ a s e left, resultFrom (sink a) s = (.error e, left) → left = s

theorem reaches_nil_iff : sink.Reaches s [] left ↔ left = s := by
  constructor
  · rintro ⟨⟩
    rfl
  · rintro rfl
    exact .nil _

theorem reaches_cons_iff {a : Artifact} :
    sink.Reaches s (a :: artifacts) left ↔
      ∃ s', resultFrom (sink a) s = (.ok (), s') ∧ sink.Reaches s' artifacts left := by
  constructor
  · rintro (_ | ⟨ha, hrest⟩)
    exact ⟨_, ha, hrest⟩
  · rintro ⟨s', ha, hrest⟩
    exact .cons ha hrest

theorem forM_cons (a : Artifact) :
    (a :: artifacts).forM sink = sink a >>= fun _ => artifacts.forM sink :=
  List.forM_cons

-- All writes succeed when each of them does.
theorem resultFrom_forM_eq_ok_iff :
    resultFrom (artifacts.forM sink) s = (.ok (), left) ↔ sink.Reaches s artifacts left := by
  induction artifacts generalizing s with
  | nil =>
    rw [reaches_nil_iff]
    exact ⟨fun h => (Prod.mk.inj h).2.symm, fun h => h ▸ rfl⟩
  | cons a rest ih =>
    rw [reaches_cons_iff, forM_cons]
    rcases ha : resultFrom (sink a) s with ⟨outcome, s'⟩
    cases outcome with
    | error e => simp [resultFrom_bind_of_error ha]
    | ok u =>
      rw [resultFrom_bind_of_ok ha, ih]
      simp

-- The first write that fails ends the pass.
theorem resultFrom_forM_eq_error_iff :
    resultFrom (artifacts.forM sink) s = (.error e, left) ↔
      ∃ written before, sink.BreaksOff s artifacts written before e left := by
  induction artifacts generalizing s with
  | nil =>
    constructor
    · intro h
      cases (Prod.mk.inj h).1
    · rintro ⟨written, before, -, a, rest, h, -⟩
      simp at h
  | cons a rest ih =>
    rw [forM_cons]
    rcases ha : resultFrom (sink a) s with ⟨outcome, s'⟩
    cases outcome with
    | error e' =>
      rw [resultFrom_bind_of_error ha]
      constructor
      · intro h
        exact ⟨[], s, .nil s, a, rest, rfl, ha.trans h⟩
      · rintro ⟨written, before, hreaches, b, more, hsplit, hb⟩
        cases written with
        | nil =>
          obtain rfl := reaches_nil_iff.mp hreaches
          obtain ⟨rfl, -⟩ := List.cons.inj hsplit
          exact ha.symm.trans hb
        | cons c written =>
          obtain ⟨rfl, -⟩ := List.cons.inj hsplit
          obtain ⟨_, hc, -⟩ := reaches_cons_iff.mp hreaches
          simp [ha] at hc
    | ok u =>
      rw [resultFrom_bind_of_ok ha, ih]
      constructor
      · rintro ⟨written, before, hreaches, b, more, rfl, hb⟩
        exact ⟨a :: written, before, .cons ha hreaches, b, more, rfl, hb⟩
      · rintro ⟨written, before, hreaches, b, more, hsplit, hb⟩
        cases written with
        | nil =>
          obtain rfl := reaches_nil_iff.mp hreaches
          obtain ⟨rfl, -⟩ := List.cons.inj hsplit
          simp [ha] at hb
        | cons c written =>
          obtain ⟨rfl, rfl⟩ := List.cons.inj hsplit
          obtain ⟨s'', hc, hreaches⟩ := reaches_cons_iff.mp hreaches
          obtain rfl : s' = s'' := (Prod.mk.inj (ha.symm.trans hc)).2
          exact ⟨written, before, hreaches, b, more, rfl, hb⟩

end Sink

namespace Generator

variable {g : Generator} {around : Store.Surroundings} {source : String} {e : Error}

-- Nothing can be made from a table of a catalog: it has no model, or a script for it fails.
def FailsAt (g : Generator) (c : Catalog) (entry : String × String) (e : Error) : Prop :=
  Table.build c entry.1 entry.2 = .error e ∨
    ∃ t, Table.build c entry.1 entry.2 = .ok t ∧ g.patches t = .error e

-- Nothing is made from a schema: its script is refused, or one of its tables fails. Of several
-- tables that fail the first one tells why.
inductive Refuses (g : Generator) (around : Store.Surroundings) (source : String) : Error → Prop
  | script {e : Error} : Store.load source around = .error e → Refuses g around source e
  | table {store : Store} {before after : List (String × String)} {entry : String × String}
      {e : Error} :
    Store.load source around = .ok store → store.listTables = before ++ entry :: after →
      (∀ earlier ∈ before, ∀ e', ¬ g.FailsAt (store.catalog around.asked) earlier e') →
      g.FailsAt (store.catalog around.asked) entry e → Refuses g around source e

theorem ofTable_eq_error_iff {t : Table} : g.ofTable t = .error e ↔ g.patches t = .error e := by
  rw [ofTable, bind_eq_error_iff]
  simp [pure, Except.pure]

theorem ofCatalog_eq_error_iff {store : Store} :
    g.ofCatalog (store.catalog around.asked) = .error e ↔
      ∃ before entry after, store.listTables = before ++ entry :: after ∧
        (∀ earlier ∈ before, ∀ e', ¬ g.FailsAt (store.catalog around.asked) earlier e') ∧
        g.FailsAt (store.catalog around.asked) entry e := by
  have hentry (entry : String × String) (e : Error) :
      (do g.ofTable (← Table.build (store.catalog around.asked) entry.1 entry.2)) = .error e ↔
        g.FailsAt (store.catalog around.asked) entry e := by
    simp only [bind_eq_error_iff, ofTable_eq_error_iff, FailsAt]
  change ((store.listTables.mapM fun entry => do
      g.ofTable (← Table.build (store.catalog around.asked) entry.1 entry.2)) >>=
        fun artifacts => .ok artifacts.flatten) = .error e ↔ _
  simp only [bind_eq_error_iff (f := fun artifacts : List (List Artifact) => .ok artifacts.flatten),
    mapM_eq_error_iff, ne_eq, hentry]
  simp

theorem ofSchema_eq_error_iff {sourceName : String} {c : Catalog} :
    g.ofSchema sourceName source c = .error e ↔ g.ofCatalog c = .error e := by
  rw [ofSchema, bind_eq_error_iff]
  simp [pure, Except.pure]

theorem render_eq_error_iff (sourceName : String) :
    g.render sourceName source around = .error e ↔ g.Refuses around source e := by
  rw [render_eq_bind, bind_eq_error_iff]
  simp only [ofSchema_eq_error_iff]
  constructor
  · rintro (h | ⟨store, hload, h⟩)
    · exact .script h
    · obtain ⟨before, entry, after, hsplit, hbefore, hentry⟩ := ofCatalog_eq_error_iff.mp h
      exact .table hload hsplit hbefore hentry
  · rintro (h | ⟨hload, hsplit, hbefore, hentry⟩)
    · exact .inl h
    · exact .inr ⟨_, hload, ofCatalog_eq_error_iff.mpr ⟨_, _, _, hsplit, hbefore, hentry⟩⟩

-- A table that fails spoils the pass wherever it stands.
theorem exists_refuses_iff :
    (∃ e, g.Refuses around source e) ↔
      (∃ e, Store.load source around = .error e) ∨
        ∃ store, Store.load source around = .ok store ∧
          ∃ entry ∈ store.listTables, ∃ e, g.FailsAt (store.catalog around.asked) entry e := by
  constructor
  · rintro ⟨e, h | ⟨hload, hsplit, -, hentry⟩⟩
    · exact .inl ⟨e, h⟩
    · exact .inr ⟨_, hload, _, by simp [hsplit], e, hentry⟩
  · rintro (⟨e, h⟩ | ⟨store, hload, entry, hmem, e, hentry⟩)
    · exact ⟨e, .script h⟩
    · classical
      -- the first table that fails
      have hsome : (store.listTables.find? fun x =>
          ∃ e, g.FailsAt (store.catalog around.asked) x e).isSome := by
        rw [List.find?_isSome]
        exact ⟨entry, hmem, by simpa using ⟨e, hentry⟩⟩
      obtain ⟨first, hfirst⟩ := Option.isSome_iff_exists.mp hsome
      obtain ⟨hfails, before, after, hsplit, hbefore⟩ := List.find?_eq_some_iff_append.mp hfirst
      obtain ⟨e, hfails⟩ := of_decide_eq_true hfails
      exact ⟨e, .table hload hsplit (by simpa using hbefore) hfails⟩

section Run

variable {σ : Type} {sink : Sink (StateM σ)} {sourceName : String} {s left : σ}

-- What the notice of a missing table changes.
def afterNotice (g : Generator) (host : Host (StateM σ)) (c : Catalog) (s : σ) : σ :=
  if g.lacksPatchTable c then ((host.tell (.missingPatchTable g.config.patch.table)).run s).2 else s

theorem resultFrom_renderOn (host : Host (StateM σ)) :
    resultFrom (g.renderOn host sourceName source) s =
      match resultFrom (host.engine source) s with
      | (.error e, s') => (.error e, s')
      | (.ok c, s') =>
        match g.ofSchema sourceName source c with
        | .error e => (.error e, s')
        | .ok artifacts => (.ok artifacts, g.afterNotice host c s') := by
  rcases hengine : resultFrom (host.engine source) s with ⟨e | c, s'⟩
  · exact resultFrom_bind_of_error hengine
  · rw [renderOn, resultFrom_bind_of_ok hengine]
    dsimp only
    cases g.ofSchema sourceName source c with
    | error e => exact resultFrom_bind_of_error rfl
    | ok artifacts =>
      refine (resultFrom_bind_of_ok (a := artifacts) rfl).trans ?_
      rw [afterNotice]
      cases g.lacksPatchTable c <;> rfl

-- What a rendering yields depends on its surroundings by what the script makes there.
theorem fst_resultFrom_renderOn (host : Host (StateM σ)) :
    (resultFrom (g.renderOn host sourceName source) s).1 =
      (resultFrom (host.engine source) s).1 >>= g.ofSchema sourceName source := by
  rw [resultFrom_renderOn]
  rcases resultFrom (host.engine source) s with ⟨e | c, s'⟩
  · rfl
  · dsimp only [bind, Except.bind]
    cases g.ofSchema sourceName source c <;> rfl

theorem resultFrom_renderOn_inMemory :
    resultFrom (g.renderOn (.inMemory around) sourceName source) s =
      (g.render sourceName source around, s) := by
  rw [resultFrom, run_renderOn_inMemory, render_eq_bind]
  rfl

theorem resultFrom_run_of_error (h : g.render sourceName source around = .error e) :
    resultFrom (g.run sink sourceName source (.inMemory around)) s = (.error e, s) := by
  exact resultFrom_bind_of_error (resultFrom_renderOn_inMemory.trans (by rw [h]))

theorem resultFrom_run_of_ok {artifacts : List Artifact}
    (h : g.render sourceName source around = .ok artifacts) :
    resultFrom (g.run sink sourceName source (.inMemory around)) s =
      resultFrom (artifacts.forM sink >>= fun _ => pure artifacts) s := by
  exact resultFrom_bind_of_ok (resultFrom_renderOn_inMemory.trans (by rw [h]))

theorem resultFrom_run_eq_ok_iff {artifacts : List Artifact} :
    resultFrom (g.run sink sourceName source (.inMemory around)) s = (.ok artifacts, left) ↔
      g.render sourceName source around = .ok artifacts ∧ sink.Reaches s artifacts left := by
  cases hrender : g.render sourceName source around with
  | error e => simp [resultFrom_run_of_error hrender]
  | ok rendered =>
    rw [resultFrom_run_of_ok hrender, ← Sink.resultFrom_forM_eq_ok_iff]
    rcases hwritten : resultFrom (rendered.forM sink) s with ⟨outcome, s'⟩
    constructor
    · intro h
      cases outcome with
      | error e => cases (resultFrom_bind_of_error hwritten).symm.trans h
      | ok u =>
        cases (resultFrom_bind_of_ok hwritten).symm.trans h
        exact ⟨rfl, hwritten⟩
    · rintro ⟨hsame, h⟩
      obtain rfl := Except.ok.inj hsame
      exact resultFrom_bind_of_ok h

theorem resultFrom_run_eq_error_iff :
    resultFrom (g.run sink sourceName source (.inMemory around)) s = (.error e, left) ↔
      (g.Refuses around source e ∧ left = s) ∨
        ∃ artifacts written before, g.render sourceName source around = .ok artifacts ∧
          sink.BreaksOff s artifacts written before e left := by
  rw [← render_eq_error_iff sourceName]
  cases hrender : g.render sourceName source around with
  | error e' => simp [resultFrom_run_of_error hrender, eq_comm]
  | ok rendered =>
    rw [resultFrom_run_of_ok hrender]
    rcases hwritten : resultFrom (rendered.forM sink) s with ⟨outcome, s'⟩
    constructor
    · intro h
      cases outcome with
      | error e' =>
        cases (resultFrom_bind_of_error hwritten).symm.trans h
        obtain ⟨written, before, hbreaks⟩ := Sink.resultFrom_forM_eq_error_iff.mp hwritten
        exact .inr ⟨rendered, written, before, rfl, hbreaks⟩
      | ok u => cases (resultFrom_bind_of_ok hwritten).symm.trans h
    · rintro (⟨h, -⟩ | ⟨artifacts, written, before, hsame, hbreaks⟩)
      · cases h
      · obtain rfl := Except.ok.inj hsame
        exact resultFrom_bind_of_error
          (Sink.resultFrom_forM_eq_error_iff.mpr ⟨written, before, hbreaks⟩)

-- A pass leaves its sink where a part of the rendered artifacts, taken from the front, brings it:
-- all of them if it succeeds, none if the schema is refused, and those in front of the first
-- write that fails otherwise. What that write itself leaves behind is up to the sink.
theorem run_writes_front (g : Generator) (sink : Sink (StateM σ)) (sourceName source : String)
    (around : Store.Surroundings) (s : σ) :
    (∀ artifacts left,
      resultFrom (g.run sink sourceName source (.inMemory around)) s = (.ok artifacts, left) ↔
        g.render sourceName source around = .ok artifacts ∧ sink.Reaches s artifacts left) ∧
    (∀ e left, resultFrom (g.run sink sourceName source (.inMemory around)) s = (.error e, left) ↔
      (g.Refuses around source e ∧ left = s) ∨
        ∃ artifacts written before, g.render sourceName source around = .ok artifacts ∧
          sink.BreaksOff s artifacts written before e left) ∧
    ((∃ e, g.Refuses around source e) ↔
      (∃ e, Store.load source around = .error e) ∨
        ∃ store, Store.load source around = .ok store ∧
          ∃ entry ∈ store.listTables, ∃ e, g.FailsAt (store.catalog around.asked) entry e) ∧
    (sink.FailsCleanly →
      ∃ written, written <+: (g.render sourceName source around).toOption.getD [] ∧
      sink.Reaches s written
        (resultFrom (g.run sink sourceName source (.inMemory around)) s).2) := by
  refine ⟨fun _ _ => resultFrom_run_eq_ok_iff, fun _ _ => resultFrom_run_eq_error_iff,
    exists_refuses_iff, fun hclean => ?_⟩
  rcases hrun : resultFrom (g.run sink sourceName source (.inMemory around)) s with ⟨outcome, left⟩
  cases outcome with
  | ok artifacts =>
    obtain ⟨hrender, hreaches⟩ := resultFrom_run_eq_ok_iff.mp hrun
    exact ⟨artifacts, by simp [hrender, Except.toOption], hreaches⟩
  | error e =>
    rcases resultFrom_run_eq_error_iff.mp hrun with ⟨-, rfl⟩ | ⟨artifacts, written, before, hrender,
      hreaches, a, rest, rfl, ha⟩
    · exact ⟨[], List.nil_prefix, .nil _⟩
    · obtain rfl := hclean a before e left ha
      exact ⟨written, by simp [hrender, Except.toOption], hreaches⟩

end Run

-- A sink that keeps names and has room for so many of them.
def shelf (room : Nat) : Sink (StateM (List String)) := fun a =>
  .mk fun names =>
    if names.length < room then (.ok (), names ++ [a.name])
    else (.error (.file a.name .isDirectory), names)

theorem resultFrom_shelf (room : Nat) (a : Artifact) (names : List String) :
    resultFrom (shelf room a) names =
      if names.length < room then (.ok (), names ++ [a.name])
      else (.error (.file a.name .isDirectory), names) := rfl

-- With room for one artifact the first of two is left. A patch script that fails leaves none,
-- although the modules of its table could be made.
theorem run_writes_front_of_full_shelf :
    let g : Generator := ⟨{}, .usual, ⟨""⟩, ⟨""⟩⟩
    let good := "CREATE TABLE A(ID INTEGER PRIMARY KEY)"
    let bad := "CREATE TABLE CURRENCYFORMATS_V1(ID INTEGER PRIMARY KEY)"
    (shelf 1).FailsCleanly ∧
      (∃ written, written <+: (g.render "t.sql" good).toOption.getD [] ∧
        (shelf 1).Reaches [] written ["A_Table.h"]) ∧
      g.Refuses {} bad (.missingPatchField "CURRENCYFORMATS_V1" "CURRENCY_SYMBOL") := by
  intro g good bad
  have hclean : (shelf 1).FailsCleanly := by
    intro a s e left h
    rw [resultFrom_shelf] at h
    split at h
    · cases (Prod.mk.inj h).1
    · exact (Prod.mk.inj h).2.symm
  have hleft : (resultFrom (g.run (shelf 1) "t.sql" good) []).2 = ["A_Table.h"] := by
    decide +kernel
  have hbad : resultFrom (g.run (shelf 1) "t.sql" bad) [] =
      (.error (.missingPatchField "CURRENCYFORMATS_V1" "CURRENCY_SYMBOL"), []) := by
    decide +kernel
  refine ⟨hclean, ?_, ?_⟩
  · have hfront := (run_writes_front g (shelf 1) "t.sql" good {} []).2.2.2 hclean
    rwa [hleft] at hfront
  · rcases ((run_writes_front g (shelf 1) "t.sql" bad {} []).2.1 _ _).mp hbad with
      ⟨hrefuses, -⟩ | ⟨artifacts, written, before, -, hreaches, a, rest, -, ha⟩
    · exact hrefuses
    · rw [resultFrom_shelf] at ha
      split at ha <;> cases (Prod.mk.inj ha).1

end Generator

end TableForge
