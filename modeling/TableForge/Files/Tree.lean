import TableForge.Error
import TableForge.Files.Path
import TableForge.Keyed

namespace TableForge

-- The names that lead from the root to a file or a directory, the last one first.
abbrev Location := List String

inductive Entry where
  | directory
  | file (text : String)
  deriving DecidableEq, Repr

-- Files and directories, and the directory where relative paths begin. The root is always there.
structure Tree where
  workingDirectory : Location := []
  entries : List (Location × Entry) := []
  -- what has been written on the standard error
  console : String := ""
  deriving DecidableEq, Repr

namespace Tree

def lookup? (t : Tree) (location : Location) : Option Entry :=
  if location.isEmpty then some .directory else t.entries.lookup location

def put (t : Tree) (location : Location) (entry : Entry) : Tree :=
  { t with entries := Keyed.put location entry t.entries }

-- The longest name and the longest path, in bytes.
def nameLimit : Nat := 255
def pathLimit : Nat := 4095

-- Where one part of a path leads to, from a location that must be a directory.
def step (t : Tree) (location : Location) (part : String) : Except FileCause Location :=
  match t.lookup? location with
  | none => .error .notFound
  | some (.file _) => .error .notDirectory
  | some .directory =>
    if part = "." then .ok location
    else if part = ".." then .ok location.tail
    else if nameLimit < part.utf8ByteSize then .error .nameTooLong
    else .ok (part :: location)

def walk (t : Tree) (path : String) (parts : List String) : Except FileCause Location :=
  parts.foldlM t.step (if Path.isAbsolute path then [] else t.workingDirectory)

def checkPath (path : String) : Except FileCause Unit :=
  if path.isEmpty then .error .notFound
  else if pathLimit < path.utf8ByteSize then .error .nameTooLong
  else .ok ()

-- Where a path leads to. All but its last part is there, and whether that is too is not asked.
def locate (t : Tree) (path : String) : Except FileCause Location :=
  if (Char.ofNat 0) ∈ path.toList then .error .zeroInPath
  else do
    checkPath path
    t.walk path (Path.parts path)

def readFile (t : Tree) (path : String) : Except FileCause String := do
  match t.lookup? (← t.locate path) with
  | none => .error .notFound
  | some .directory => .error .isDirectory
  | some (.file text) => if Path.asksForDirectory path then .error .notDirectory else .ok text

def text? (t : Tree) (path : String) : Option String := (t.readFile path).toOption

def isDirectory (t : Tree) (path : String) : Bool :=
  match t.locate path with
  | .ok location => t.lookup? location == some .directory
  | .error _ => false

def makeDirectory (t : Tree) (path : String) : Except FileCause Tree := do
  let location ← t.locate path
  match t.lookup? location with
  | some _ => .error .alreadyExists
  | none => .ok (t.put location .directory)

-- A file that is written to at its end. It is made if it is missing.
def openTrace (t : Tree) (path : String) : Except FileCause Tree := do
  let location ← t.locate path
  match t.lookup? location with
  | some .directory => .error .isDirectory
  | some (.file _) => if Path.asksForDirectory path then .error .isDirectory else .ok t
  | none =>
    if Path.asksForDirectory path then .error .isDirectory else .ok (t.put location (.file ""))

-- Where the path of a directory leads to. The empty one stands for the working directory.
def locateDirectory (t : Tree) (path : String) : Except FileCause Location :=
  if path.isEmpty then .ok t.workingDirectory else t.locate path

-- The directory of a path. A new file can be made in it.
def checkDirectory (t : Tree) (path : String) : Except FileCause Location := do
  let location ← t.locateDirectory path
  match t.lookup? location with
  | none => .error .notFound
  | some .directory => .ok location
  | some (.file _) => .error .notDirectory

-- Where a file of the directory `source` can be moved to, over a file that is there already. A
-- path that ends with a dot does not name a place.
def moveTarget (t : Tree) (source : Location) (path : String) : Except FileCause Location :=
  if (Char.ofNat 0) ∈ path.toList then .error .invalidArgument
  else do
    checkPath path
    match (Path.parts path).reverse with
    | [] => .error .busy
    | last :: before =>
      let parent ← t.walk path before.reverse
      let location ← t.step parent last
      if last = "." || last = ".." then .error .busy
      else if Path.asksForDirectory path then .error .notDirectory
      else match t.lookup? location with
        | some .directory =>
          if location.isSuffixOf source then .error .notEmpty else .error .isDirectory
        | _ => .ok location

def remove (t : Tree) (location : Location) : Tree :=
  { t with entries := Keyed.erase location t.entries }

def temporaryName (number : Nat) : String := ".tmp" ++ toString (100000 + number)

-- The first name for a temporary file that is free in a directory. So many names are tried, from
-- a number on.
def freeName? (t : Tree) (location : Location) : Nat → Nat → Option String
  | 0, _ => none
  | attempts + 1, number =>
    if t.lookup? (temporaryName number :: location) = none then some (temporaryName number)
    else t.freeName? location attempts (number + 1)

def attemptLimit : Nat := 65536

-- A new empty file in a directory: its path, and the tree with it.
def makeTemporary (t : Tree) (directory : String) : Except FileCause (String × Tree) := do
  let location ← t.checkDirectory directory
  match t.freeName? location attemptLimit 0 with
  | none => .error .alreadyExists
  | some name =>
    let path := Path.join directory name
    let place ← t.locate path
    return (path, t.put place (.file ""))

def fileAt (t : Tree) (path : String) : Except FileCause (Location × String) := do
  let location ← t.locate path
  match t.lookup? location with
  | none => .error .notFound
  | some .directory => .error .isDirectory
  | some (.file text) => .ok (location, text)

def overwrite (t : Tree) (path text : String) : Except FileCause Tree := do
  let (location, _) ← t.fileAt path
  return t.put location (.file text)

-- The tree with a file at another path. A file that is there is replaced.
def moveFile (t : Tree) (path target : String) : Except FileCause Tree := do
  let (source, text) ← t.fileAt path
  let location ← t.moveTarget source.tail target
  return (t.remove source).put location (.file text)

def removeFile (t : Tree) (path : String) : Except FileCause Tree := do
  let (location, _) ← t.fileAt path
  return t.remove location

def append (t : Tree) (path text : String) : Tree :=
  match t.fileAt path with
  | .ok (location, old) => t.put location (.file (old ++ text))
  | .error _ => t

def print (t : Tree) (text : String) : Tree := { t with console := t.console ++ text }

-- Where a path leads to by its text alone. What two dots take back need not be there.
def nominal (t : Tree) (path : String) : Location :=
  (Path.parts path).foldl (fun location part =>
    if part = "." then location else if part = ".." then location.tail else part :: location)
    (if Path.isAbsolute path then [] else t.workingDirectory)

-- The file of a database, which is made if it is missing. Databases that have been written before
-- are not read, and other files are none.
def openDatabase (t : Tree) (path : String) : Except FileCause Tree :=
  let location := t.nominal path
  if (Path.parts path).any (nameLimit < ·.utf8ByteSize) then .error .nameTooLong
  else
    match t.lookup? location.tail, t.lookup? location with
    | none, _ => .error .notFound
    | some (.file _), _ => .error .notDirectory
    | some .directory, some .directory => .error .isDirectory
    | some .directory, some (.file text) =>
      if text.isEmpty then .ok t else .error .invalidArgument
    | some .directory, none => .ok (t.put location (.file ""))

def withDirectory (t : Tree) : Location → Tree
  | [] => t
  | name :: outer =>
    let t := t.withDirectory outer
    if (t.lookup? (name :: outer)).isSome then t else t.put (name :: outer) .directory

def withFile (t : Tree) (location : Location) (text : String) : Tree :=
  (t.withDirectory location.tail).put location (.file text)

-- What a directory contains at any depth: paths from there with the sizes of the files in bytes.
-- The path of a directory ends with a slash.
def listing (t : Tree) (directory : Location) : List (String × Nat) :=
  let inside := t.entries.filter fun (location, _) =>
    directory.isSuffixOf location && location != directory
  let shown := inside.map fun (location, entry) =>
    let path := Text.join "/" (location.take (location.length - directory.length)).reverse
    match entry with
    | .directory => (path ++ "/", 0)
    | .file text => (path, text.utf8ByteSize)
  shown.mergeSort fun a b => a.1 ≤ b.1

end Tree

end TableForge
