import TableForge.Files.Tree

namespace TableForge

-- What can be done with files. A failed operation changes nothing, apart from what it has written
-- to a temporary file.
class FileSystem (m : Type → Type) where
  readFile (path : String) : m (Except FileCause String)
  isDirectory (path : String) : m Bool
  makeDirectory (path : String) : m (Except FileCause Unit)
  -- Makes an empty file in a directory, under a name that is free there, and gives its path.
  makeTemporary (directory : String) : m (Except FileCause String)
  -- Writes a text into a temporary file.
  writeTemporary (path text : String) : m (Except FileCause Unit)
  -- Moves a temporary file to another path at once, over the file that is there.
  moveTemporary (path target : String) : m (Except FileCause Unit)
  removeTemporary (path : String) : m Unit
  -- Opens a file for writing at its end, and makes it if it is missing.
  openTrace (path : String) : m (Except FileCause Unit)
  writeTrace (path text : String) : m Unit
  -- Writes a text on the standard error.
  print (text : String) : m Unit
  openDatabase (path : String) : m (Except FileCause Unit)

namespace FileSystem

variable {m : Type → Type} [Monad m] [FileSystem m]

-- A directory that could not be made is fine if it is there.
def unlessDirectory (path : String) (cause : FileCause) : m (Except FileCause Unit) := do
  return if ← isDirectory path then .ok () else .error cause

-- Makes the first directory of a chain in which each directory is followed by the one that it
-- lies in. The outer ones are made only if that is needed. The empty path is the working
-- directory.
def makeChain : List String → m (Except FileCause Unit)
  | [] => return .error .notFound
  | path :: outer => do
    if path.isEmpty then return .ok ()
    match ← makeDirectory path with
    | .ok () => return .ok ()
    | .error .notFound =>
      match ← makeChain outer with
      | .error cause => return .error cause
      | .ok () =>
        match ← makeDirectory path with
        | .ok () => return .ok ()
        | .error cause => unlessDirectory path cause
    | .error cause => unlessDirectory path cause

-- Makes a directory that may be there already, together with the directories that it lies in.
def makeDirectories (path : String) : m (Except FileCause Unit) := makeChain (Path.ancestors path)

-- Writes a text into a temporary file of a directory and moves that to its path. When one of these
-- steps fails the temporary file is removed, and the path at fault is told.
def replaceFile (directory path text : String) : m (Except (String × FileCause) Unit) := do
  match ← makeTemporary directory with
  | .error cause => return .error (directory, cause)
  | .ok temporary =>
    match ← writeTemporary temporary text with
    | .error cause =>
      removeTemporary temporary
      return .error (temporary, cause)
    | .ok () =>
      match ← moveTemporary temporary path with
      | .error cause =>
        removeTemporary temporary
        return .error (path, cause)
      | .ok () => return .ok ()

end FileSystem

namespace Tree

def produce {ε α : Type} (f : Tree → Except ε (α × Tree)) : StateM Tree (Except ε α) := fun t =>
  match f t with
  | .ok (a, changed) => (.ok a, changed)
  | .error e => (.error e, t)

def change {ε : Type} (f : Tree → Except ε Tree) : StateM Tree (Except ε Unit) :=
  produce fun t => (f t).map ((), ·)

end Tree

instance : FileSystem (StateM Tree) where
  readFile path := do return (← get).readFile path
  isDirectory path := do return (← get).isDirectory path
  makeDirectory path := Tree.change (·.makeDirectory path)
  makeTemporary directory := Tree.produce (·.makeTemporary directory)
  writeTemporary path text := Tree.change (·.overwrite path text)
  moveTemporary path target := Tree.change (·.moveFile path target)
  removeTemporary path := do let _ ← Tree.change (·.removeFile path)
  openTrace path := Tree.change (·.openTrace path)
  writeTrace path text := modify (·.append path text)
  print text := modify (·.print text)
  openDatabase path := Tree.change (·.openDatabase path)

end TableForge
