namespace TableForge

structure Kinds where
  dump : Bool := false
  tables : Bool := false
  data : Bool := false
  patch : Bool := false
  deriving DecidableEq, Repr

namespace Kinds

def none : Kinds := {}

def usual : Kinds := { tables := true, patch := true }

def isEmpty (k : Kinds) : Bool := k == none

def orUsual (k : Kinds) : Kinds := if k.isEmpty then usual else k

end Kinds

end TableForge
