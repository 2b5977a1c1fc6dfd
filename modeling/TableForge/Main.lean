import Std.Time.Zoned
import TableForge.CommandLine.Run

namespace TableForge.Main

-- A number of the system, of which some of its parts give the negative.
def sizeOf (number : UInt32) : Nat := min number.toNat (0x100000000 - number.toNat)

def numbered (number : UInt32) (text : String) : FileCause :=
  match sizeOf number with
  | 2 => .notFound
  | 17 => .alreadyExists
  | 20 => .notDirectory
  | 21 => .isDirectory
  | n => .other n text

def cause : IO.Error → FileCause
  | .noFileOrDirectory _ n text | .alreadyExists _ n text | .inappropriateType _ n text
  | .invalidArgument _ n text | .interrupted _ n text | .permissionDenied _ n text
  | .resourceExhausted _ n text | .noSuchThing _ n text | .otherError n text
  | .resourceBusy n text | .resourceVanished n text | .unsupportedOperation n text
  | .hardwareFault n text | .unsatisfiedConstraints n text | .illegalOperation n text
  | .protocolError n text | .timeExpired n text => numbered n text
  | .userError text => .other 0 text
  | .unexpectedEof => .other 0 "unexpected end of file"

def attempt {α : Type} (action : IO α) : IO (Except FileCause α) := do
  match ← action.toBaseIO with
  | .ok a => return .ok a
  | .error e => return .error (cause e)

-- A path of the system; the empty one is the working directory.
def located (directory : String) : String := if directory.isEmpty then "." else directory

instance : FileSystem IO where
  readFile path := attempt (IO.FS.readFile path)
  isDirectory path := do
    -- only a directory can have the path of one below it taken
    match ← (IO.FS.createDir (path ++ "/.")).toBaseIO with
    | .error (.alreadyExists ..) => return true
    | _ => return false
  makeDirectory path := attempt (IO.FS.createDir path)
  makeTemporary directory := attempt do
    let path := Path.join (located directory) (".tmp" ++ toString (← IO.rand 100000 999999))
    let _ ← IO.FS.Handle.mk path .writeNew
    return path
  writeTemporary path text := attempt (IO.FS.writeFile path text)
  moveTemporary path target := attempt (IO.FS.rename path target)
  removeTemporary path := do let _ ← attempt (IO.FS.removeFile path)
  openTrace path := attempt do let _ ← IO.FS.Handle.mk path .append
  writeTrace path text := do let _ ← attempt do (← IO.FS.Handle.mk path .append).putStr text
  print text := do let _ ← attempt do (← IO.getStderr).putStr text
  openDatabase path := attempt do
    let _ ← IO.FS.Handle.mk path .append
    if !(← IO.FS.readBinFile path).isEmpty then throw (.userError "not an empty database")

def now : IO Timestamp := do
  let t ← Std.Time.PlainDateTime.now
  return {
    year := t.date.year.toInt
    month := t.date.month.toNat
    day := t.date.day.toNat
    hour := t.time.hour.toNat
    minute := t.time.minute.toNat
    second := t.time.second.toNat
    nanosecond := t.time.nanosecond.toNat }

def surroundings : IO Store.Surroundings := do
  let passed := (← Std.Time.Timestamp.now).toMillisecondsSinceUnixEpoch.val
  let seed ← IO.rand 0 0xFFFFFFFFFFFFFFFF
  return {
    clock := fun _ => Calendar.unixEpoch + passed
    drawn := fun place => Function.scattered (seed :: place)
    asked := {
      now := Calendar.unixEpoch + passed
      drawn := fun place => Function.scattered (seed :: -1 :: place) } }

end TableForge.Main

def main (args : List String) : IO UInt32 := do
  let time ← TableForge.Main.now
  let engine : TableForge.Engine IO := .onFiles (← TableForge.Main.surroundings)
  let outcome ← TableForge.CommandLine.run args time engine fun notice =>
    time.text ++ "  WARN tablegen: " ++ notice.line
  (← IO.getStdout).putStr outcome.stdout
  (← IO.getStderr).putStr outcome.stderr
  return UInt32.ofNat outcome.code
