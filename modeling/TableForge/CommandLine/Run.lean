import TableForge.CommandLine.Options
import TableForge.Generator.Project

namespace TableForge.CommandLine

-- What a run leaves behind besides files and its log.
structure Outcome where
  code : Nat
  stdout : String := ""
  -- the report of a failure, which stands behind the log
  stderr : String := ""
  deriving DecidableEq, Repr

-- A cause with its number, if there are several; its further lines stand below its first one.
def causeText (number : Option Nat) (cause : String) : String :=
  match number with
  | none => "    " ++ Text.replace "\n" "\n    " cause
  | some n =>
    String.ofList (List.replicate (5 - (toString n).length) ' ') ++ toString n ++ ": " ++
      Text.replace "\n" "\n       " cause

def report : List String → String
  | [] => ""
  | [message] => "Error: " ++ message ++ "\n"
  | [message, cause] =>
    "Error: " ++ message ++ "\n\nCaused by:\n" ++ causeText none cause ++ "\n"
  | message :: causes =>
    "Error: " ++ message ++ "\n\nCaused by:\n" ++
      Text.unlines (causes.zipIdx.map fun (cause, n) => causeText (some n) cause)

def summary (artifacts : List Artifact) : String :=
  Text.unlines ((artifacts.map fun a => "Generate " ++ a.name ++ " (" ++ a.description ++ ")") ++
    ["Done"])

def failed (messages : List String) : Outcome := { code := 1, stderr := report messages }

def Options.project (o : Options) : Project where
  schema := o.schema
  kinds := o.kinds
  configFile := o.config
  outputDir := o.outputDir

variable {m : Type → Type} [Monad m] [FileSystem m]

-- The log goes to the trace file, or to the standard error without one.
def Options.log (o : Options) (text : String) : m Unit :=
  match o.traceFile with
  | none => FileSystem.print text
  | some path => FileSystem.writeTrace path text

def Options.host (o : Options) (engine : Engine m) (line : Notice → String) : Host m where
  engine
  tell n := o.log (line n)

def Options.run (o : Options) (time : Timestamp) (engine : Engine m) (line : Notice → String) :
    m Outcome := do
  let opened ← match o.traceFile with
    | none => pure (.ok ())
    | some path => FileSystem.openTrace path
  match opened with
  | .error cause => return failed [cause.message]
  | .ok () =>
    match ← (o.project.run time (o.host engine line)).run with
    | .error failure => return failed failure.messages
    | .ok (_, artifacts) => return { code := 0, stdout := summary artifacts }

def usageText : String := "Usage: tablegen [OPTIONS] <SCHEMA>\n"

def helpText : String :=
  "Command line front end for tablegen\n\n" ++ usageText ++ "\n" ++ Text.unlines [
  "Arguments:",
  "  <SCHEMA>  Schema source (CREATE TABLE / CREATE INDEX / INSERT)",
  "",
  "Options:",
  "  -s                                     Write the schema with translation markers removed",
  "  -t                                     Generate table interface and implementation modules",
  "  -d                                     Generate sample data modules",
  "  -p                                     Generate the currency patch scripts",
  "      --config <CONFIG>                  TOML configuration file",
  "      --output-dir <OUTPUT_DIR>          Directory receiving the generated files",
  "      --tracing-output <TRACING_OUTPUT>  specify output file for log traces",
  "  -h, --help                             Print help",
  "  -V, --version                          Print version"]

-- What is said about an argument list that leads to no run. Help and version are no errors.
def Refusal.outcome : Refusal → Outcome
  | .help => { code := 0, stdout := helpText }
  | .version => { code := 0, stdout := "tablegen " ++ Header.version ++ "\n" }
  | .missingSchema => refused "the following required arguments were not provided: <SCHEMA>"
  | .unknownArgument => refused "unexpected argument found"
  | .repeated => refused "an argument cannot be used multiple times"
  | .invalidValue => refused "a value is required but none was supplied"
  | .surplusValue => refused "unexpected value found; no more were expected"
where
  refused (message : String) : Outcome :=
    { code := 2
      stderr := "error: " ++ message ++ "\n\n" ++ usageText ++
        "\nFor more information, try '--help'.\n" }

def run (args : List String) (time : Timestamp) (engine : Engine m := .onFiles)
    (line : Notice → String := Notice.line) : m Outcome :=
  match Options.ofArguments args with
  | .error refusal => return refusal.outcome
  | .ok options => options.run time engine line

end TableForge.CommandLine
