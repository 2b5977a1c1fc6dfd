import TableForge.Patch

namespace TableForge

-- Files that hold header templates; without one the built-in template is used.
structure HeaderPaths where
  table : Option String := none
  data : Option String := none
  deriving DecidableEq, Repr

structure Config where
  outputDir : String := "."
  dumpFile : String := "tables_en.sql"
  headers : HeaderPaths := {}
  patch : PatchSettings := {}
  deriving DecidableEq, Repr

end TableForge
