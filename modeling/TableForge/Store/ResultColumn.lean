import TableForge.Script.Expr.Grouped
import TableForge.Store.Entry

-- The columns of what a query yields: their names and types.
namespace TableForge.Store

open Script (Expr)

structure ResultColumn where
  name : String
  type : String
  -- none for a column whose values are computed
  affinity : Option Affinity
  collation : Collation

def withoutNumber (name : List Char) : List Char :=
  match (name.reverse.dropWhile Char.isDigit) with
  | ':' :: rest => if rest.isEmpty then name else rest.reverse
  | _ => name

-- A name that is not among others: it gets a number behind it as long as it is.
def distinctName (used : List String) (name : String) : Nat → Nat → String
  | 0, _ => name
  | fuel + 1, n =>
    if used.any (Text.sameLetters name) then
      let base := String.ofList (withoutNumber name.toList)
      distinctName used (base ++ ":" ++ toString (n + 1)) fuel (n + 1)
    else name

def numberedName (i : Nat) : String := "column" ++ toString (i + 1)

-- Names of columns: those that are truth values are replaced by numbered ones, and all differ.
def columnNames (names : List String) : List String :=
  names.zipIdx.foldl (fun used (name, i) =>
    let name := if (Expr.truthOf? name).isSome then numberedName i else name
    used ++ [distinctName used name (used.length + 1) 0]) []

-- The name of the column that an expression is, through what does not change its value.
def columnName? (t : StoredTable) : Expr → Option String
  | .collate e _ => columnName? t e
  | .call "likely" [e] | .call "unlikely" [e] | .call "likelihood" [e, _] => columnName? t e
  | .column i _ _ => some ((t.columns[i]?).elim "rowid" (·.name))
  | _ => none

def typeOf : Affinity → String
  | .blob => "BLOB"
  | .text => "TEXT"
  | .numeric => "NUM"
  | .integer => "INT"
  | .real => "REAL"

structure ResultPart where
  table : StoredTable
  expr : Expr

namespace ResultPart

def declared (p : ResultPart) : String :=
  match p.expr with
  | .column i _ _ => (p.table.columns[i]?).elim "INTEGER" (·.type)
  | _ => ""

-- The affinity of the column. One of a view has none unless it has a type.
def affinity? (p : ResultPart) : Option Affinity :=
  match p.expr with
  | .column .. => if p.table.isResult && p.declared.isEmpty then none else p.expr.affinity?
  | e => e.affinity?

def isCast (p : ResultPart) : Bool :=
  match p.expr with
  | .cast .. => true
  | _ => false

-- The affinity of the column that expressions of several queries share: that of the first one
-- which has one, unless the values of the others may not suit it.
def sharedAffinity? (parts : List ResultPart) : Option Affinity := do
  let i ← parts.findIdx? (·.affinity?.isSome)
  let a ← (← parts[i]?).affinity?
  let others := (parts.eraseIdx i).map (·.expr.kinds)
  if others.isEmpty then return a
  if a = .text && others.any (·.1) then return .blob
  if a.isNumeric && others.any (·.2) then return .blob
  return if a.isNumeric && parts.head?.any isCast then .numeric else a

def column (name : String) (parts : List ResultPart) : ResultColumn :=
  let declared := parts.head?.elim "" (·.declared)
  let affinity := sharedAffinity? parts
  let type := affinity.elim "" fun a =>
    if !declared.isEmpty && Affinity.ofDeclared declared = a then declared else typeOf a
  { name, type, affinity
    collation := (parts.head?.bind (·.expr.collation?)).getD .binary }

end ResultPart

end TableForge.Store
