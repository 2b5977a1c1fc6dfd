import TableForge.Store.Connection

namespace TableForge

structure Notice where
  message : String
  fields : List (String × String)
  deriving DecidableEq, Repr

namespace Notice

def missingPatchTable (table : String) : Notice :=
  ⟨"patch table not found in schema, no patch written", [("table", table)]⟩

def line (n : Notice) : String :=
  Text.join " " (n.message :: n.fields.map fun (name, value) => name ++ "=" ++ value) ++ "\n"

end Notice

-- What executes a schema script and answers for what it has made.
abbrev Engine (m : Type → Type) := String → ExceptT Error m Catalog

-- What a pass is given from outside.
structure Host (m : Type → Type) where
  engine : Engine m
  tell (notice : Notice) : m Unit

variable {m : Type → Type} [Monad m]

-- An engine that makes stores in memory.
def Engine.inMemory (around : Store.Surroundings := {}) : Engine m := fun script =>
  .mk (pure ((Store.load script around).map fun s => s.catalog around.asked))

-- An engine that attaches databases in files besides.
def Engine.onFiles [FileSystem m] (around : Store.Surroundings := {}) : Engine m := fun script => do
  return (← Store.execute around script).catalog around.asked

def Host.silent (engine : Engine m) : Host m := ⟨engine, fun _ => pure ()⟩

def Host.inMemory (around : Store.Surroundings := {}) : Host m := .silent (.inMemory around)

end TableForge
