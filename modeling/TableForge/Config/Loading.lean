import TableForge.Config.Reading
import TableForge.Files.System
import TableForge.Header

namespace TableForge

def readText {m : Type → Type} [Monad m] [FileSystem m] (path : String) :
    ExceptT Error m String :=
  .mk do return (← FileSystem.readFile path).mapError fun cause => .file path cause

namespace HeaderPaths

def within (p : HeaderPaths) (directory : String) : HeaderPaths :=
  ⟨p.table.map (Path.join directory), p.data.map (Path.join directory)⟩

end HeaderPaths

namespace Config

variable {m : Type → Type} [Monad m] [FileSystem m]

-- Reads a configuration file. Its header templates are looked for in its directory.
def load (path : String) : ExceptT Error m Config := do
  match read? (← readText path) with
  | none => throw (.badConfig path)
  | some config =>
    match Path.parent? path with
    | none => return config
    | some directory => return { config with headers := config.headers.within directory }

def headerOf (path : Option String) (builtIn : Header) : ExceptT Error m Header :=
  match path with
  | none => return builtIn
  | some path => do return ⟨← readText path⟩

def loadHeaders (config : Config) (time : Timestamp) : ExceptT Error m (Header × Header) := do
  let table ← headerOf config.headers.table (.forTables time)
  let data ← headerOf config.headers.data (.forData time)
  return (table, data)

end Config

end TableForge
