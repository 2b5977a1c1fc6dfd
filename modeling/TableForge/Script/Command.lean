import TableForge.Script.Statement.Reader

namespace TableForge.Script

-- What a script asks for: a statement, or a database in a file to be attached under a name.
inductive Command where
  | statement (s : Statement)
  | attach (path name : String)
  deriving Repr

namespace Command

open Reader

def readAttach : Reader Command := do
  keyword "ATTACH"
  discard (keyword? "DATABASE")
  let path ← name
  keyword "AS"
  return .attach path (← name)

def read : Reader Command := do
  match ← attempt Statement.read with
  | some s => return .statement s
  | none => readAttach

def readOne : Reader Command := do
  let command ← read
  Definition.atEnd
  return command

end Command

end TableForge.Script
