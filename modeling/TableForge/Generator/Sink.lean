import TableForge.Config.Loading
import TableForge.Generator.Basic

namespace TableForge

abbrev Sink (m : Type → Type) := Artifact → ExceptT Error m Unit

namespace Sink

def memory : Sink (StateM (List (String × String))) := fun a =>
  modify (Keyed.put a.name a.fileText)

def directory {m : Type → Type} [Monad m] [FileSystem m] (path : String) : Sink m := fun a =>
  .mk do
    let written ← FileSystem.replaceFile path (Path.join path a.name) a.fileText
    return written.mapError fun (path, cause) => .file path cause

-- The directory as a sink, made if it is missing.
def ofDirectory {m : Type → Type} [Monad m] [FileSystem m] (path : String) :
    ExceptT Error m (Sink m) :=
  .mk do
    match ← FileSystem.makeDirectories path with
    | .ok () => return .ok (directory path)
    | .error cause => return .error (.file path cause)

end Sink

namespace Generator

variable {m : Type → Type} [Monad m]

-- Renders everything, then writes it in that order. The first failure ends the pass.
def run (g : Generator) (sink : Sink m) (sourceName source : String)
    (host : Host m := .inMemory) : ExceptT Error m (List Artifact) := do
  let artifacts ← g.renderOn host sourceName source
  artifacts.forM sink
  return artifacts

def runFile [FileSystem m] (g : Generator) (sink : Sink m) (host : Host m) (schema : String) :
    ExceptT Error m (List Artifact) := do
  let source ← readText schema
  g.run sink ((Path.fileName? schema).getD schema) source host

end Generator

end TableForge
