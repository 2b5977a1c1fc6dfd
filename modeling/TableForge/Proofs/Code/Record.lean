import TableForge.Code.Lines
import TableForge.Text.Replace

-- Record classes of the generated code: which names they declare, which names their functions
-- declare, and which members the bodies mention.
namespace TableForge.Code

-- A parameter or a local variable. A parameter may have no name.
structure Variable where
  type : String
  name : Option String

@[simp] def Variable.text (v : Variable) : String :=
  match v.name with
  | some name => v.type ++ " " ++ name
  | none => v.type

-- A part of a line of code.
inductive Piece where
  -- what is the same for all columns of a kind
  | code (s : String)
  -- the name of a column for a member of the record at hand
  | own (column : String)
  -- the name behind an object or a pointer
  | dot (column : String)
  | arrow (column : String)
  -- the name as a text
  | quoted (column : String)

namespace Piece

@[simp] def text : Piece → String
  | .code s | .own s => s
  | .dot column => "." ++ column
  | .arrow column => "->" ++ column
  | .quoted column => "\"" ++ column ++ "\""

-- The member of the record at hand that is mentioned.
@[simp] def mention? : Piece → Option String
  | .own column => some column
  | _ => none

end Piece

inductive Statement where
  -- the declaration of a local variable, up to the end of the line
  | declaration (v : Variable) (rest : String)
  | line (pieces : List Piece)

namespace Statement

@[simp] def text : Statement → String
  | .declaration v rest => "    " ++ v.text ++ rest
  | .line pieces => (pieces.map Piece.text).foldr (· ++ ·) ""

@[simp] def mentions : Statement → List String
  | .declaration .. => []
  | .line pieces => pieces.filterMap Piece.mention?

@[simp] def local? : Statement → Option String
  | .declaration v _ => v.name
  | .line _ => none

end Statement

-- A function up to its body, with what stands before its name, between the name and the
-- parameters, and behind them.
structure Signature where
  before : String := ""
  name : String
  gap : String := ""
  parameters : List Variable := []
  after : String := ""

-- The signature with what the name is looked up in, empty inside of a class.
@[simp] def Signature.text (scope : String) (s : Signature) : String :=
  s.before ++ scope ++ s.name ++ s.gap ++ "(" ++ Text.join ", " (s.parameters.map Variable.text) ++
    ")" ++ s.after

structure Function where
  signature : Signature
  body : List Statement

namespace Function

def mentions (f : Function) : List String := f.body.flatMap Statement.mentions

-- The names that the function declares.
def locals (f : Function) : List String :=
  f.signature.parameters.filterMap (·.name) ++ f.body.filterMap Statement.local?

-- No member that is mentioned by its bare name is hidden by a parameter or a local variable.
def Clear (f : Function) : Prop := ∀ member ∈ f.mentions, member ∉ f.locals

instance (f : Function) : Decidable f.Clear := List.decidableBAll (· ∉ f.locals) f.mentions

@[simp] def bodyText (f : Function) : List String := f.body.map Statement.text

end Function

-- What stands in a class.
inductive Entry where
  -- a line without declarations
  | note (line : String)
  | alias (name type : String)
  | member (type name remark : String)
  | declared (s : Signature)
  -- a function with its body, on one line or on several lines
  | short (f : Function)
  | long (f : Function)
  -- a class with one function
  | nested (name : String) (f : Function)

namespace Entry

@[simp] def lines : Entry → List String
  | .note line => [line]
  | .alias name type => ["    using " ++ name ++ " = " ++ type ++ ";"]
  | .member type name remark => ["    " ++ type ++ " " ++ name ++ ";" ++ remark]
  | .declared s => ["    " ++ s.text "" ++ ";"]
  | .short f => ["    " ++ f.signature.text "" ++ " \x7b " ++ Text.join " " f.bodyText ++ " \x7d"]
  | .long f => ["    " ++ f.signature.text "", "    \x7b"] ++ f.bodyText ++ ["    \x7d"]
  | .nested name f =>
    ["    struct " ++ name, "    \x7b", "        " ++ f.signature.text "", "        \x7b"] ++
      f.bodyText ++ ["        \x7d", "    \x7d;"]

@[simp] def member? : Entry → Option String
  | .member _ name _ => some name
  | _ => none

-- The function or the alias that is declared.
@[simp] def named? : Entry → Option String
  | .alias name _ => some name
  | .declared s => some s.name
  | .short f | .long f => some f.signature.name
  | _ => none

@[simp] def function? : Entry → Option Function
  | .short f | .long f | .nested _ f => some f
  | _ => none

end Entry

-- A function that is defined outside of its class, below comments.
structure Definition where
  comments : List String
  function : Function

def Definition.lines (owner : String) (d : Definition) : List String :=
  block (d.comments ++ [d.function.signature.text (owner ++ "::")]) d.function.bodyText

-- A class of records with the functions that its interface and its implementation define.
structure Record where
  name : String
  remark : String
  entries : List Entry
  inlined : List Definition
  implemented : List Definition

namespace Record

def classLines (r : Record) : List String :=
  ["", r.remark, "struct " ++ r.name, "\x7b"] ++ r.entries.flatMap Entry.lines ++ ["\x7d;"]

def inlinedLines (r : Record) : List String := r.inlined.flatMap (Definition.lines r.name)

def implementedLines (r : Record) : List String := r.implemented.flatMap (Definition.lines r.name)

def members (r : Record) : List String := r.entries.filterMap Entry.member?

-- Functions and aliases that the class declares.
def named (r : Record) : List String := r.entries.filterMap Entry.named?

-- All functions that have a body.
def functions (r : Record) : List Function :=
  r.entries.filterMap Entry.function? ++ (r.inlined ++ r.implemented).map (·.function)

theorem forall_mem_functions {r : Record} {p : Function → Prop} :
    (∀ f ∈ r.functions, p f) ↔ (∀ f ∈ r.entries.filterMap Entry.function?, p f) ∧
      (∀ d ∈ r.inlined, p d.function) ∧ ∀ d ∈ r.implemented, p d.function := by
  rw [functions, List.map_append, List.forall_mem_append, List.forall_mem_append,
    List.forall_mem_map, List.forall_mem_map]

-- Each member has a name of its own in the class, and it is what its bare name means in every
-- body that mentions it.
structure KeepsNames (r : Record) : Prop where
  once : r.members.Nodup
  apart : ∀ member ∈ r.members, member ∉ r.named
  clear : ∀ f ∈ r.functions, f.Clear

theorem keepsNames_iff {r : Record} : r.KeepsNames ↔
    r.members.Nodup ∧ (∀ member ∈ r.members, member ∉ r.named) ∧ ∀ f ∈ r.functions, f.Clear :=
  ⟨fun h => ⟨h.once, h.apart, h.clear⟩, fun ⟨once, apart, clear⟩ => ⟨once, apart, clear⟩⟩

end Record

end TableForge.Code
