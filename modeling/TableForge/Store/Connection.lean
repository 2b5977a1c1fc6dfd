import TableForge.Files.System
import TableForge.Script.Command
import TableForge.Store.Listing

-- Scripts that attach databases in files.
namespace TableForge.Store

open Script (Command Lexeme)

-- A session with the names of the databases that are attached to it.
structure Connection where
  session : Session := {}
  attached : List String := []

namespace Connection

def attachLimit : Nat := 10

def mayAttach (c : Connection) (name : String) : Bool :=
  c.attached.length < attachLimit && !("main" :: "temp" :: c.attached).any (Text.sameLetters name)

-- A database under one of these paths has no file.
def isFileless (path : String) : Bool := path.isEmpty || path == ":memory:"

variable {m : Type → Type} [Monad m] [FileSystem m]

def attach? (c : Connection) (path name : String) : m (Option Connection) := do
  if !c.mayAttach name || "file:".toList.isPrefixOf path.toList then return none
  let opened ← if isFileless path then pure (.ok ()) else FileSystem.openDatabase path
  return match opened with
  | .error _ => none
  | .ok () => some {
      session := { c.session with count := c.session.count + 1 }
      attached := name :: c.attached }

def perform? (around : Surroundings) (c : Connection) : Command → m (Option Connection)
  | .statement s => return (c.session.next? around s).map fun session => { c with session }
  | .attach path name => c.attach? path name

-- Carries out the commands of a script, each as soon as it is read. The first one that cannot be
-- read or is refused ends that, and the files that are attached by then stay. Each command takes a
-- unit of fuel.
def perform (around : Surroundings) : Nat → Connection → List Lexeme → m (Option Connection)
  | 0, _, _ => return none
  | _ + 1, c, [] => return some c
  | fuel + 1, c, l :: rest =>
    if l.token == .symbol ";" then perform around fuel c rest
    else
      match Command.readOne.run (l :: rest) with
      | none => return none
      | some (command, behind) => do
        match ← c.perform? around command with
        | none => return none
        | some c => perform around fuel c behind

end Connection

-- The store that a script makes, which may attach databases in files.
def execute {m : Type → Type} [Monad m] [FileSystem m] (around : Surroundings := {})
    (script : String) : ExceptT Error m Store :=
  .mk do
    let lexemes := Script.lexemes script
    match ← Connection.perform around (lexemes.length + 1) {} lexemes with
    | none => return .error .script
    | some c => return .ok c.session.store

end TableForge.Store
