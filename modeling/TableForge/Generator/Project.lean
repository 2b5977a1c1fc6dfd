import TableForge.Generator.Sink

namespace TableForge

structure Project where
  schema : String
  kinds : Kinds
  configFile : Option String := none
  -- goes before the directory of the configuration
  outputDir : Option String := none
  deriving DecidableEq, Repr

structure Failure where
  context : Option String
  error : Error
  deriving DecidableEq, Repr

namespace Failure

-- What is reported: each message is explained by the next one.
def messages (f : Failure) : List String :=
  f.context.toList ++ f.error.message ::
    match f.error with
    | .file _ cause => [cause.message]
    | _ => []

end Failure

namespace Project

variable {m : Type → Type} [Monad m] [FileSystem m]

def during {α : Type} (context : Option String) (action : ExceptT Error m α) :
    ExceptT Failure m α :=
  action.adapt fun error => ⟨context, error⟩

def config (p : Project) : ExceptT Failure m Config := do
  let config ← match p.configFile with
    | none => pure {}
    | some path => during (some ("failed to load configuration " ++ path)) (Config.load path)
  return { config with outputDir := p.outputDir.getD config.outputDir }

def run (p : Project) (time : Timestamp) (host : Host m := .silent .onFiles) :
    ExceptT Failure m (Config × List Artifact) := do
  let config ← p.config
  let sink ← during (some ("failed to prepare output directory " ++ config.outputDir))
    (Sink.ofDirectory config.outputDir)
  let (tableHeader, dataHeader) ← during none (config.loadHeaders time)
  let generator : Generator := ⟨config, p.kinds, tableHeader, dataHeader⟩
  let artifacts ← during (some ("failed to generate from " ++ p.schema))
    (generator.runFile sink host p.schema)
  return (config, artifacts)

end Project

end TableForge
