import TableForge.Function.Aggregate
import TableForge.Script.Expr.Basic

-- Expressions over groups of rows: the calls in them that look at all rows of a group.
namespace TableForge.Script

structure GroupCall where
  aggregate : Aggregate
  arguments : List Expr
  -- each value counts once
  distinct : Bool

namespace Expr

-- A column in the place of a call, behind those for the calls that were found before. The plus
-- sign takes away from it what only columns of tables have.
def lift (start : Nat) (call : GroupCall) : StateM (List GroupCall) Expr := do
  let found ← get
  set (found ++ [call])
  return .unary .plus (.column (start + found.length) .blob none)

mutual

def liftCalls (start : Nat) : Expr → StateM (List GroupCall) Expr
  | .row l => return .row (← liftAll start l)
  | .unary op e => return .unary op (← liftCalls start e)
  | .binary op l r => return .binary op (← liftCalls start l) (← liftCalls start r)
  | .truth e wanted negated => return .truth (← liftCalls start e) wanted negated
  | .collate e c => return .collate (← liftCalls start e) c
  | .cast e a => return .cast (← liftCalls start e) a
  | .between e low high =>
    return .between (← liftCalls start e) (← liftCalls start low) (← liftCalls start high)
  | .isIn e l => return .isIn (← liftCalls start e) (← liftAll start l)
  | .cases l => return .cases (← liftAll start l)
  | .casesOf e l => return .casesOf (← liftCalls start e) (← liftAll start l)
  | .call f l => do
    match Aggregate.find? f l.length with
    | none => return .call f (← liftAll start l)
    | some aggregate => lift start ⟨aggregate, l, false⟩
  | .callOnce f e =>
    match Aggregate.find? f 1 with
    | none => return .query
    | some aggregate => lift start ⟨aggregate, [e], true⟩
  | e => return e

def liftAll (start : Nat) : List Expr → StateM (List GroupCall) (List Expr)
  | [] => return []
  | e :: rest => return (← liftCalls start e) :: (← liftAll start rest)

end

mutual

def kinds : Expr → Bool × Bool
  | .literal .null => (false, false)
  | .literal (.text _) => (false, true)
  | .literal (.blob _) => (false, false)
  | .collate e _ | .unary .plus e => kinds e
  | .binary .concat _ _ => (false, true)
  | .parameter | .call .. | .callOnce .. => (true, true)
  | .column _ a _ | .cast _ a =>
    match a with
    | .text => (false, true)
    | .blob => (true, true)
    | _ => (true, false)
  | .cases l | .casesOf _ l => kindsOfValues l
  | _ => (true, false)

def kindsOfValues : List Expr → Bool × Bool
  | [] => (false, false)
  | [e] => kinds e
  | _ :: e :: rest =>
    let (number, text) := kindsOfValues rest
    let found := kinds e
    (found.1 || number, found.2 || text)

end

end Expr

end TableForge.Script
