import TableForge.Calendar.Moment
import TableForge.Datum.Affinity

namespace TableForge

-- A value as functions pass it on; texts that are JSON because a function made them are marked.
structure Operand where
  datum : Datum
  isJson : Bool := false
  deriving DecidableEq, Repr

-- What a statement finds when it is carried out.
structure Occasion where
  -- in milliseconds since noon on the day that the count of days begins with
  now : Int := Calendar.unixEpoch
  -- the number that is drawn by chance at each place of the statement
  drawn : List Int → Nat := fun _ => 0
  -- the number of the row that was inserted last
  lastRowid : Int := 0

-- What the value of an expression may depend on besides its operands.
structure Circumstances where
  occasion : Occasion := {}
  -- the way to the expression, from the inside to the outside
  place : List Int := []
  -- the value is to stay the same at all times
  isLasting : Bool := false

def Circumstances.inside (c : Circumstances) (part : Int) : Circumstances :=
  { c with place := part :: c.place }

namespace Function

-- What a function is called with: its arguments, how texts among them are compared, and the
-- circumstances.
structure Call where
  arguments : List Operand
  collation : Collation
  circumstances : Circumstances

-- How long the value of a function stays the same for the same arguments: always, for one
-- statement, or not at all.
inductive Stability where
  | lasting
  | momentary
  | fleeting
  deriving DecidableEq, Repr

end Function

-- A function of expressions under its name. It takes at least and at most so many arguments, and
-- may refuse some. One that chooses among its arguments does not mind if those that it passes
-- over were refused.
structure Function where
  name : String
  least : Nat
  most : Option Nat
  stability : Function.Stability := .lasting
  value? : Function.Call → Option Operand := fun _ => none
  choice? : Option (List (Option Operand) → Option Operand) := none

namespace Function

def ofData (name : String) (least most : Nat) (value : List Datum → Datum) : Function where
  name
  least
  most := some most
  value? call := some { datum := value (call.arguments.map (·.datum)) }

def ofData? (name : String) (least : Nat) (most : Option Nat) (value? : List Datum → Option Datum) :
    Function where
  name
  least
  most
  value? call := (value? (call.arguments.map (·.datum))).map fun datum => { datum }

-- What the function makes of its arguments, each of which is none where it was refused.
def result? (f : Function) (collation : Collation) (circumstances : Circumstances)
    (arguments : List (Option Operand)) : Option Operand :=
  match f.choice? with
  | some choose? => choose? arguments
  | none => do f.value? ⟨← arguments.mapM id, collation, circumstances⟩

def accepts (f : Function) (count : Nat) : Bool := f.least ≤ count && f.most.all (count ≤ ·)

-- Values longer than this are refused.
def greatestLength : Nat := 1000000000

end Function

end TableForge
