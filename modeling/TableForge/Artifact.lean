import TableForge.Code.DataImplementation
import TableForge.Code.DataInterface
import TableForge.Code.TableImplementation
import TableForge.Code.TableInterface
import TableForge.Header
import TableForge.Text.Lines

namespace TableForge

structure Artifact where
  name : String
  -- one line that is shown when the file is written
  description : String
  contents : String
  -- the file begins with a byte-order mark
  marked : Bool
  deriving DecidableEq, Repr

namespace Artifact

def byteOrderMark : Char := Char.ofNat 0xFEFF

def fileText (a : Artifact) : String :=
  if a.marked then String.singleton byteOrderMark ++ a.contents else a.contents

-- The bytes of the file. A mark at its beginning takes three of them.
def bytes (a : Artifact) : ByteArray :=
  if a.marked then ⟨#[0xEF, 0xBB, 0xBF]⟩ ++ a.contents.toUTF8 else a.contents.toUTF8

theorem toUTF8_fileText (a : Artifact) : a.fileText.toUTF8 = a.bytes := by
  have hmark : (String.singleton byteOrderMark).toByteArray = ⟨#[0xEF, 0xBB, 0xBF]⟩ := by decide
  rw [fileText, bytes]
  split
  · rw [String.toUTF8_eq_toByteArray, String.toByteArray_append, hmark]
    rfl
  · rfl

def ofModule (name brief description : String) (marked : Bool) (h : Header)
    (lines : List String) : Artifact :=
  ⟨name, description, h.render name brief ++ Text.unlines lines, marked⟩

def tableInterface (h : Header) (t : Table) : Artifact :=
  ofModule (t.tableClass ++ ".h") ("Interface to database table " ++ t.name)
    ("source code for " ++ t.name) true h (Code.TableInterface.lines t)

def tableImplementation (h : Header) (t : Table) : Artifact :=
  ofModule (t.tableClass ++ ".cpp")
    ("Implementation of the interface to database table " ++ t.name)
    ("source code for " ++ t.name) true h (Code.TableImplementation.lines t)

def dataInterface (h : Header) (t : Table) : Artifact :=
  ofModule (t.dataClass ++ ".h")
    ("Sample data structure for a single record in table " ++ t.name)
    ("sample data structure for " ++ t.name) false h (Code.DataInterface.lines t)

def dataImplementation (h : Header) (t : Table) : Artifact :=
  ofModule (t.dataClass ++ ".cpp")
    ("Sample data structure for a single record in table " ++ t.name)
    ("sample data structure for " ++ t.name) false h (Code.DataImplementation.lines t)

end Artifact

end TableForge
