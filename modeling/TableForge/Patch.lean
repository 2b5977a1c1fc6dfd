import TableForge.Table.Model
import TableForge.Text.Lines

namespace TableForge

structure PatchSettings where
  table : String := "CURRENCYFORMATS_V1"
  naturalKey : String := "CURRENCY_SYMBOL"
  nameField : String := "CURRENCYNAME"
  fullFile : String := "patch_currency.sql"
  unicodeFile : String := "patch_currency_utf8.sql"
  deriving DecidableEq, Repr

-- A script for all seed rows, or only for those that write a character outside ASCII.
inductive PatchVariant where
  | full
  | unicodeOnly
  deriving DecidableEq, Repr

namespace Patch

-- A seed value as a token of the script. Markers never reach the script.
def token : Value → String
  | .null => "NULL"
  | .int i => Text.Quoted.quoteText (toString i)
  | .real x => Text.Quoted.quoteText x.text
  | .text s => Text.Quoted.quoteText (Marker.cleanText s)

-- What the script writes for one seed row: the display name and the natural key of the row that
-- must exist, and its other columns besides the primary key.
structure Upsert where
  name : String
  key : String
  assignments : List (String × String)
  deriving DecidableEq, Repr

namespace Upsert

def ofRow (settings : PatchSettings) (primary : String) (row : Row) : Upsert :=
  { name := token ((row.get? settings.nameField).getD .null)
    key := token ((row.get? settings.naturalKey).getD .null)
    assignments := (row.filter fun (column, _) =>
        !Text.sameLetters column primary && !Text.sameLetters column settings.naturalKey).map
      fun (column, value) => (column, token value) }

def assignmentList (u : Upsert) : String :=
  Text.join ", " (u.assignments.map fun (column, value) => column ++ "=" ++ value)

def isAscii (u : Upsert) : Bool :=
  Text.allAscii u.assignmentList && Text.allAscii u.key && Text.allAscii u.name

def insertion (settings : PatchSettings) (table : String) (u : Upsert) : String :=
  "INSERT OR IGNORE INTO " ++ table ++ " (" ++ settings.nameField ++ ", " ++
    settings.naturalKey ++ ") VALUES (" ++ u.name ++ ", " ++ u.key ++ ");"

def change (settings : PatchSettings) (table : String) (u : Upsert) : String :=
  "UPDATE OR IGNORE " ++ table ++ " SET " ++ u.assignmentList ++ " WHERE " ++
    settings.naturalKey ++ "=" ++ u.key ++ ";"

-- The missing row is added, then its other columns are overwritten, if it has any.
def statements (settings : PatchSettings) (table : String) (u : Upsert) : List String :=
  u.insertion settings table ::
    if u.assignments.isEmpty then [] else [u.change settings table]

end Upsert

def banner (table : String) (variant : PatchVariant) : List String :=
  ["-- Seed data patch for " ++ table ++ " --",
    "-- This script adds missing rows and overwrites their parameters."] ++
  match variant with
  | .full => []
  | .unicodeOnly => ["-- Only rows with unicode text are affected."]

-- The seed rows that a variant covers, as they are written.
def upserts (settings : PatchSettings) (variant : PatchVariant) (t : Table) : List Upsert :=
  (t.rows.map (Upsert.ofRow settings t.fields.key.name)).filter fun u =>
    match variant with
    | .full => true
    | .unicodeOnly => !u.isAscii

-- The table has a field of that name, without regard to the case of ASCII letters.
def hasField (t : Table) (name : String) : Bool :=
  t.fields.declared.any fun f => Text.sameLetters f.name name

-- The script for a table. The natural key is looked for before the name field.
def render (settings : PatchSettings) (variant : PatchVariant) (t : Table) :
    Except Error String :=
  if !hasField t settings.naturalKey then .error (.missingPatchField t.name settings.naturalKey)
  else if !hasField t settings.nameField then
    .error (.missingPatchField t.name settings.nameField)
  else
    .ok (Text.unlines (banner t.name variant ++
      (upserts settings variant t).flatMap (Upsert.statements settings t.name)))

end Patch

end TableForge
