import TableForge.Text.Replace

namespace TableForge

inductive FileCause where
  | notFound
  | alreadyExists
  | notDirectory
  | isDirectory
  | zeroInPath
  -- any other cause, as the system numbers and words it
  | other (number : Nat) (text : String)
  deriving DecidableEq, Repr

def FileCause.message : FileCause → String
  | .notFound => "No such file or directory (os error 2)"
  | .alreadyExists => "File exists (os error 17)"
  | .notDirectory => "Not a directory (os error 20)"
  | .isDirectory => "Is a directory (os error 21)"
  | .zeroInPath => "file name contained an unexpected NUL byte"
  | .other number text => text ++ " (os error " ++ toString number ++ ")"

namespace FileCause

def busy : FileCause := .other 16 "Device or resource busy"
def invalidArgument : FileCause := .other 22 "Invalid argument"
def nameTooLong : FileCause := .other 36 "File name too long"
def notEmpty : FileCause := .other 39 "Directory not empty"

end FileCause

inductive Error where
  -- the schema script, or a question about it, is refused
  | script
  | missingKey (table : String)
  | compositeKey (table : String) (columns : List String)
  | unmappedType (table column declared : String)
  | malformedIndex (index definition : String)
  | blobValue (table column : String)
  | missingPatchField (table field : String)
  | badConfig (path : String)
  | file (path : String) (cause : FileCause)
  deriving DecidableEq, Repr

def Error.message : Error → String
  | .script => "schema catalog error"
  | .missingKey table => "table " ++ table ++ " has no primary key"
  | .compositeKey table columns =>
    "table " ++ table ++ " has a composite primary key (" ++ Text.join ", " columns ++ ")"
  | .unmappedType table column declared =>
    "column " ++ table ++ "." ++ column ++ " has unmapped type \x60" ++ declared ++ "\x60"
  | .malformedIndex index definition =>
    "index " ++ index ++ " has no INDEX keyword: \x60" ++ definition ++ "\x60"
  | .blobValue table column => "seed value for " ++ table ++ "." ++ column ++ " is a blob"
  | .missingPatchField table field => "patch table " ++ table ++ " has no field " ++ field
  | .badConfig path => "invalid configuration in " ++ path
  | .file path cause => "I/O error on " ++ path ++ ": " ++ cause.message

end TableForge
