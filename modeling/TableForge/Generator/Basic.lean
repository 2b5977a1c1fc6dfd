import TableForge.Artifact
import TableForge.Config.Basic
import TableForge.Dump
import TableForge.Generator.Host
import TableForge.Generator.Kinds

namespace TableForge

structure Generator where
  config : Config
  kinds : Kinds
  tableHeader : Header
  dataHeader : Header
  deriving DecidableEq, Repr

namespace Generator

def dumps (g : Generator) (sourceName source : String) : List Artifact :=
  if g.kinds.dump then
    [⟨g.config.dumpFile, "clean database without translation",
      Dump.render sourceName source, false⟩]
  else []

def tableModules (g : Generator) (t : Table) : List Artifact :=
  if g.kinds.tables then
    [.tableInterface g.tableHeader t, .tableImplementation g.tableHeader t]
  else []

def dataModules (g : Generator) (t : Table) : List Artifact :=
  if g.kinds.data then
    [.dataInterface g.dataHeader t, .dataImplementation g.dataHeader t]
  else []

def patchScript (g : Generator) (t : Table) (name : String) (variant : PatchVariant) :
    Except Error Artifact := do
  return ⟨name, "patch for " ++ t.name, ← Patch.render g.config.patch variant t, false⟩

-- Both patch scripts for the table that is to be patched, none for the others.
def patches (g : Generator) (t : Table) : Except Error (List Artifact) := do
  if g.kinds.patch && Text.sameLetters t.name g.config.patch.table then
    let full ← g.patchScript t g.config.patch.fullFile .full
    let unicodeOnly ← g.patchScript t g.config.patch.unicodeFile .unicodeOnly
    return [full, unicodeOnly]
  else return []

def ofTable (g : Generator) (t : Table) : Except Error (List Artifact) := do
  return g.tableModules t ++ g.dataModules t ++ (← g.patches t)

-- What is made for the tables of a catalog, in its order. One bad table spoils the whole pass.
def ofCatalog (g : Generator) (c : Catalog) : Except Error (List Artifact) := do
  let artifacts ← (← c.tables).mapM fun (name, definition) => do
    g.ofTable (← Table.build c name definition)
  return artifacts.flatten

def ofSchema (g : Generator) (sourceName source : String) (c : Catalog) :
    Except Error (List Artifact) := do
  return g.dumps sourceName source ++ (← g.ofCatalog c)

-- There should be patch scripts, but no table is to be patched.
def lacksPatchTable (g : Generator) (c : Catalog) : Bool :=
  g.kinds.patch && !(c.tables.toOption.getD []).any fun entry =>
    Text.sameLetters entry.1 g.config.patch.table

def renderOn {m : Type → Type} [Monad m] (g : Generator) (host : Host m)
    (sourceName source : String) : ExceptT Error m (List Artifact) := do
  let catalog ← host.engine source
  let artifacts ← .mk (pure (g.ofSchema sourceName source catalog))
  if g.lacksPatchTable catalog then host.tell (.missingPatchTable g.config.patch.table)
  return artifacts

def render (g : Generator) (sourceName source : String) (around : Store.Surroundings := {}) :
    Except Error (List Artifact) :=
  (g.renderOn (.inMemory around : Host Id) sourceName source).run

theorem run_renderOn_inMemory {m : Type → Type} [Monad m] [LawfulMonad m] (g : Generator)
    (sourceName source : String) (around : Store.Surroundings) :
    (g.renderOn (.inMemory around : Host m) sourceName source).run =
      pure (Store.load source around >>= fun store =>
        g.ofSchema sourceName source (store.catalog around.asked)) := by
  cases hload : Store.load source around with
  | error e =>
    simp [renderOn, Host.inMemory, Host.silent, Engine.inMemory, hload, ExceptT.run_bind,
      Except.map]
    rfl
  | ok store =>
    change _ = pure (g.ofSchema sourceName source (store.catalog around.asked))
    cases hmade : g.ofSchema sourceName source (store.catalog around.asked) <;>
      simp [renderOn, Host.inMemory, Host.silent, Engine.inMemory, hload, hmade, ExceptT.run_bind,
        Except.map]

theorem render_eq_bind (g : Generator) (sourceName source : String) (around : Store.Surroundings) :
    g.render sourceName source around =
      Store.load source around >>= fun store =>
        g.ofSchema sourceName source (store.catalog around.asked) :=
  g.run_renderOn_inMemory (m := Id) sourceName source around

end Generator

end TableForge
