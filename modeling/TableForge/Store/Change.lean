import TableForge.Store.Reference
import TableForge.Store.Scope

namespace TableForge.Store

open Script (Expr Conflict ReferenceAction)

-- A store in the course of a statement, with the number of references that have lost their
-- parents: of those that must hold at the end of the statement, and of those that must hold at
-- the end of the transaction.
structure Progress where
  store : Store
  occasion : Occasion
  missing : Int
  deferred : Int

namespace Progress

def mapRows (p : Progress) (t : StoredTable) (f : List StoredRow → List StoredRow) : Progress :=
  { p with store := p.store.mapRows t f }

def rows (p : Progress) (t : StoredTable) : List StoredRow :=
  (p.store.refresh? t).elim [] (·.rows)

def current? (p : Progress) (t : StoredTable) (row : StoredRow) : Option StoredRow :=
  (p.rows t).find? (·.rowid = row.rowid)

def isSettled (p : Progress) (key : ForeignKey) : Bool :=
  (if key.reference.deferred then p.deferred else p.missing) = 0

def count (p : Progress) (key : ForeignKey) (n : Int) : Progress :=
  if key.reference.deferred then { p with deferred := p.deferred + n }
  else { p with missing := p.missing + n }

-- A row of a child table comes, which counts if it has no parent.
def enterChild (p : Progress) (child : StoredTable) (key : ForeignKey) (row : StoredRow) :
    Progress :=
  match foreignValues? key row, p.store.target? child key with
  | some values, some (parent, columns) =>
    if parent.isSame child && refersToItself columns values row then p
    else if (p.rows parent).any (refersTo columns values) then p
    else p.count key 1
  | _, _ => p

-- A row of a child table goes, which no longer counts if it had no parent. Where the parent table
-- is missing as a whole it counts in any case.
def leaveChild (p : Progress) (child : StoredTable) (key : ForeignKey) (row : StoredRow) :
    Progress :=
  match foreignValues? key row with
  | none => p
  | some values =>
    match p.store.parentOf? child key with
    | none => p.count key (-1)
    | some parent =>
      match p.store.parentColumns? parent key with
      | none => p
      | some columns =>
        if p.isSettled key || (p.rows parent).any (refersTo columns values) then p
        else p.count key (-1)

def children (p : Progress) (t : StoredTable) (child : StoredTable) (key : ForeignKey)
    (row : StoredRow) : List StoredRow :=
  match p.store.parentColumns? t key with
  | none => []
  | some columns => (p.rows child).filter (isChildOf child key columns row)

-- A row of a parent table comes, so that its children no longer lack it.
def enterParent (p : Progress) (t : StoredTable) (child : StoredTable) (key : ForeignKey)
    (row : StoredRow) : Progress :=
  if p.isSettled key then p else p.count key (-(p.children t child key row).length)

def leaveParent (p : Progress) (t : StoredTable) (child : StoredTable) (key : ForeignKey)
    (row : StoredRow) : Progress :=
  let others := (p.children t child key row).filter fun r => !(t.isSame child && r == row)
  p.count key others.length

def leave (p : Progress) (t : StoredTable) (c : RowChange) (row : StoredRow) : Progress :=
  let p := (p.store.checkedKeys t c).foldl (fun p key => p.leaveChild t key row) p
  (p.store.checkedChildKeys t c).foldl (fun p (child, key) => p.leaveParent t child key row) p

def enter (p : Progress) (t : StoredTable) (c : RowChange) (row : StoredRow) : Progress :=
  let p := (p.store.checkedKeys t c).foldl (fun p key => p.enterChild t key row) p
  (p.store.checkedChildKeys t c).foldl (fun p (child, key) => p.enterParent t child key row) p

end Progress

inductive Outcome where
  | done (p : Progress)
  | skipped

-- How the next constraint is resolved for a row that violates it.
inductive Verdict where
  | kept
  | skipped
  | replaced (row : StoredRow)

def defaultValue? (o : Occasion) (place : List Int) (c : StoredColumn) : Option Datum := do
  let e ← (Scope.alone .default).resolve? c.default
  return (← e.eval? { occasion := o, place } []).datum

-- The first value that is missing, and how that is resolved: a default takes its place if the
-- row would replace others.
def checkPresence? (o : Occasion) (t : StoredTable) (override : Option Conflict)
    (row : StoredRow) : Option Verdict :=
  (t.columns.zipIdx).foldlM (fun verdict (c, i) => do
    let current := match verdict with
      | .replaced r => r
      | _ => row
    match verdict, c.notNull with
    | .skipped, _ => return .skipped
    | v, none => return v
    | v, some own =>
      if !(current.cells.getD i .null).isNull || t.rowidColumn = some i then return v
      match override.getD own with
      | .ignore => return .skipped
      | .replace =>
        let d := c.affinity.apply (← defaultValue? o [i, row.rowid, 2] c)
        if d.isNull then none
        return .replaced { current with cells := current.cells.set i d }
      | _ => none) .kept

def checksHold? (o : Occasion) (t : StoredTable) (row : StoredRow) : Option Bool := do
  let found ← t.checks.zipIdx.mapM fun (e, i) =>
    e.test? ⟨o, [i, row.rowid, 3], true⟩ row.operands
  return found.all (· ≠ some false)

-- The keys of all indices of a table, the newest first and those that replace rows last.
def keysOf (s : Store) (t : StoredTable) : List RowKey :=
  let unique := s.uniqueKeysOf t
  unique.filter (·.conflict != .replace) ++ unique.filter (·.conflict == .replace)

def otherKeysOf (s : Store) (t : StoredTable) : List RowKey :=
  (s.indices.filter fun i =>
    !i.isUnique && i.temporary == t.temporary && Text.sameLetters i.table t.name).map (·.key)

-- The rows that stand in the way of a row with each constraint, and how the constraint resolves
-- it.
def obstacles? (s : Store) (t : StoredTable) (row : StoredRow) (others : List StoredRow) :
    Option (List (Conflict × List StoredRow)) := do
  let byNumber := if t.withoutRowid then [] else others.filter (·.rowid == row.rowid)
  let byKeys ← (s.keysOf t).mapM fun key => do
    return (key.conflict, ← key.conflicts? row others)
  discard ((s.otherKeysOf t).mapM (·.of? row))
  return (t.rowidConflict, byNumber) :: byKeys

-- The rows to be removed for a row to be written; none if it is to be skipped.
def resolve? (override : Option Conflict) :
    List (Conflict × List StoredRow) → Option (Option (List StoredRow))
  | [] => some (some [])
  | (_, []) :: rest => resolve? override rest
  | (own, found) :: rest =>
    match override.getD own with
    | .ignore => some none
    | .replace => (resolve? override rest).map fun more => more.map fun rows => found ++ rows
    | _ => none

def withForeign (key : ForeignKey) (values : List Datum) (row : StoredRow) : StoredRow :=
  { row with cells := (key.columns.zip values).foldl (fun cells (i, d) => cells.set i d) row.cells }

def foreignDefaults? (o : Occasion) (child : StoredTable) (key : ForeignKey) :
    Option (List Datum) :=
  key.columns.mapM fun (i : Nat) => do defaultValue? o [i, 6] (← child.columns[i]?)

def parentValues (columns : List ParentColumn) (row : StoredRow) : List Datum :=
  columns.map fun c => row.cells.getD c.index .null

def keepsParent (columns : List ParentColumn) (old new : StoredRow) : Bool :=
  columns.all fun c =>
    Datum.same c.collation (old.cells.getD c.index .null) (new.cells.getD c.index .null)

mutual

-- The store without a row; rows that refer to it go the way their foreign key says. Each call
-- takes a unit of fuel.
def remove : Nat → Progress → StoredTable → StoredRow → Option Progress
  | 0, _, _, _ => none
  | fuel + 1, p, t, row =>
    let c := RowChange.removal t
    let p := (p.leave t c row).mapRows t fun rows => rows.filter (· ≠ row)
    follow fuel p t c row none (p.store.checkedChildKeys t c)

-- What happens to the rows that refer to a row which is gone or has become another one, for each
-- of the given foreign keys.
def follow : Nat → Progress → StoredTable → RowChange → StoredRow → Option StoredRow →
    List (StoredTable × ForeignKey) → Option Progress
  | 0, _, _, _, _, _, _ => none
  | _ + 1, p, _, _, _, _, [] => some p
  | fuel + 1, p, t, c, old, new, (child, key) :: more => do
    let step ← match p.store.parentColumns? t key with
      | none => some p
      | some columns => do
        if new.any (keepsParent columns old) then some p
        else
          let rows := p.children t child key old
          match actionOf c key with
          | .none => some p
          | .restrict => if rows.isEmpty then some p else none
          | .cascade =>
            match new with
            | none => removeAll fuel p child rows
            | some row => reassign fuel p child key (parentValues columns row) rows
          | .setNull => reassign fuel p child key (columns.map fun _ => .null) rows
          | .setDefault => do
            if rows.isEmpty then some p
            else reassign fuel p child key (← foreignDefaults? p.occasion child key) rows
    follow fuel step t c old new more

def removeAll : Nat → Progress → StoredTable → List StoredRow → Option Progress
  | 0, _, _, _ => none
  | _ + 1, p, _, [] => some p
  | fuel + 1, p, t, row :: rest => do
    let p ← match p.current? t row with
      | some row => remove fuel p t row
      | none => some p
    removeAll fuel p t rest

def reassign :
    Nat → Progress → StoredTable → ForeignKey → List Datum → List StoredRow → Option Progress
  | 0, _, _, _, _, _ => none
  | _ + 1, p, _, _, _, [] => some p
  | fuel + 1, p, t, key, values, row :: rest => do
    match p.current? t row with
    | none => reassign fuel p t key values rest
    | some row =>
      match ← overwrite fuel p t (update t key.columns) (some .abort) row
        (withForeign key values row) with
      | .skipped => none
      | .done p => reassign fuel p t key values rest

-- A row of a table as it would be stored, and the store without the rows in its way; none if it
-- is to be skipped. Values must be present, conditions must hold, and rows that stand in the way
-- are resolved.
def makeWay : Nat → Progress → StoredTable → Option Conflict → Option StoredRow → StoredRow →
    Option (Option (StoredRow × Progress))
  | 0, _, _, _, _, _ => none
  | fuel + 1, p, t, override, old, row => do
    let row ← t.stored? (t.numbered row)
    let row ← match ← checkPresence? p.occasion t override row with
      | .kept => some (some row)
      | .skipped => some none
      | .replaced row => (t.stored? row).map some
    let some row := row | return none
    if !(← checksHold? p.occasion t row) then
      return ← if override = some .ignore then some none else none
    let others := (p.rows t).filter fun r => some r ≠ old
    let some doomed ← resolve? override (← obstacles? p.store t row others) | return none
    return some (row, ← removeAll fuel p t doomed.eraseDups)

-- A row put in the place of another one, unless that has gone with the rows in its way.
def overwrite : Nat → Progress → StoredTable → RowChange → Option Conflict → StoredRow →
    StoredRow → Option Outcome
  | 0, _, _, _, _, _, _ => none
  | fuel + 1, p, t, c, override, old, row => do
    let some (row, p) ← makeWay fuel p t override (some old) row | return .skipped
    if (p.current? t old).isNone then return .done p
    let p := (p.leave t c old).mapRows t fun rows => rows.filter (· ≠ old)
    let p := (p.enter t c row).mapRows t (· ++ [row])
    return .done (← follow fuel p t c old (some row) (p.store.checkedChildKeys t c))

end

def add (fuel : Nat) (p : Progress) (t : StoredTable) (override : Option Conflict)
    (row : StoredRow) : Option Outcome := do
  let some (row, p) ← makeWay fuel p t override none row | return .skipped
  return .done ((p.enter t (.removal t) row).mapRows t (· ++ [row]))

end TableForge.Store
