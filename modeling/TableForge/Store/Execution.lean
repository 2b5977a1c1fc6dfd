import TableForge.Store.Change
import TableForge.Store.Definition
import TableForge.Store.Sequence

namespace TableForge.Store

open Script

-- Enough fuel for every chain of rows that refer to each other.
def chainFuel (s : Store) : Nat :=
  let rows := s.tables.foldl (fun n t => n + t.rows.length) 0
  let keys := s.tables.foldl (fun n t => n + t.foreignKeys.length) 0
  (rows + keys + 8) * (rows + keys + 8)

-- A table whose rows a script may change; a view has none of its own.
def changeable? (s : Store) (name : ObjectName) : Option StoredTable :=
  match s.object? name with
  | some (.inl t) => some t
  | _ => none

def isFree (s : Store) (temporary : Bool) (name : String) : Bool :=
  (s.tableIn? temporary name).isNone && (s.viewIn? temporary name).isNone &&
    (s.indexIn? temporary name).isNone

def isTaken (s : Store) (temporary : Bool) (name : String) : Bool :=
  (s.tableIn? temporary name).isSome || (s.viewIn? temporary name).isSome

def createTable? (s : Store) (d : TableDefinition) : Option Store := do
  let temporary ← newName? d.temporary d.name
  if isTaken s temporary d.name.name then
    return ← if d.ifMissing then some s else none
  if !isFree s temporary d.name.name then none
  let t ← tableOf? d
  return withSequence ({ s with tables := s.tables ++ [t] }.addTableEntries t) t

-- A view that lasts must not read objects of another schema.
def createView? (s : Store) (d : ViewDefinition) : Option Store := do
  let temporary ← newName? d.temporary d.name
  if isTaken s temporary d.name.name then
    return ← if d.ifMissing then some s else none
  if !isFree s temporary d.name.name then none
  if !temporary && d.schemas.any (!Text.sameLetters "main" ·) then none
  let s := s.addView temporary d.name.name d.text
  return { s with views := s.views ++ [⟨d.name.name, temporary, d.columns, d.query⟩] }

def isUniqueFor (key : RowKey) : List StoredRow → Option Bool
  | [] => some true
  | row :: rest => do
    if !(← key.conflicts? row rest).isEmpty then return false
    isUniqueFor key rest

def createIndex? (s : Store) (d : IndexDefinition) : Option Store := do
  let t ← s.changeable? ⟨d.name.schema, d.table⟩
  if isOwnName t.name then none
  if isTaken s t.temporary d.name.name then none
  if (s.indexIn? t.temporary d.name.name).isSome then
    return ← if d.ifMissing then some s else none
  let index ← indexOf? t d
  discard (t.rows.mapM index.key.of?)
  if index.isUnique && !(← isUniqueFor index.key t.rows) then none
  let s := s.addEntry t.temporary .index d.name.name t.name (some d.text)
  return { s with indices := s.indices ++ [index] }

-- A table goes with its rows, its indices and its sequence. The rows are removed one after the
-- other where references play a part, and none of those that must hold now may be lost.
def dropTable? (p : Progress) (t : StoredTable) : Option Progress := do
  if isOwnName t.name then none
  let change := RowChange.removal t
  let children := (p.store.childKeys t).filter fun (_, key) =>
    (p.store.parentColumns? t key).isSome
  let isConcerned := !(p.store.childKeys t).isEmpty ||
    (t.foreignKeys.any (·.reference.deferred) && p.deferred ≠ 0)
  let passed := children.filterMap fun (child, key) => passedOn? change child key
  if isConcerned && !p.store.areSupportedAfter change passed then none
  let p ← if isConcerned then removeAll (chainFuel p.store) p t t.orderedRows else some p
  if p.missing ≠ 0 then none
  let s := dropSequence (p.store.dropEntries fun e =>
    e.temporary == t.temporary && e.table == t.name) t
  return { p with store := { s with
    tables := s.tables.filter (!·.isSame t)
    indices := s.indices.filter fun i =>
      !(i.temporary == t.temporary && Text.sameLetters i.table t.name) } }

def drop? (p : Progress) (kind : ObjectKind) (ifExists : Bool) (name : ObjectName) :
    Option Progress :=
  let s := p.store
  let missing := if ifExists then some p else none
  match kind with
  | .table =>
    match s.object? name with
    | some (.inl t) => dropTable? p t
    | some (.inr _) => none
    | none => missing
  | .view =>
    match s.object? name with
    | some (.inr v) =>
      let s := s.dropEntries fun e => e.temporary == v.temporary && e.table == v.name
      some { p with store := { s with views := s.views.filter fun u =>
        !(u.temporary == v.temporary && Text.sameLetters u.name v.name) } }
    | some (.inl _) => none
    | none => missing
  | .index =>
    match s.index? name with
    | some i =>
      let s := s.dropEntries fun e =>
        e.temporary == i.temporary && e.kind = .index && e.name == i.name
      some { p with store := { s with indices := s.indices.filter fun j =>
        !(j.temporary == i.temporary && Text.sameLetters j.name i.name) } }
    | none => if isOwnIndex s name then none else missing

-- The place that an inserted value goes to: a column, or the number of the row.
inductive Place where
  | column (index : Nat)
  | number
  deriving DecidableEq

def place? (t : StoredTable) (name : String) : Option Place :=
  match t.columnIndex? name with
  | some i => if (t.columns[i]?).any (·.generated.isSome) then none else some (.column i)
  | none =>
    if !t.withoutRowid && Scope.rowidNames.any (Text.sameLetters name) then
      some ((t.rowidColumn).elim .number .column)
    else none

-- The places for the values of an insertion; without a list these are the columns that are not
-- computed.
def places? (t : StoredTable) : Option (List String) → Option (List Place)
  | some names => names.mapM (place? t)
  | none =>
    some (t.columns.zipIdx.filterMap fun (c, i) =>
      if c.generated.isNone then some (.column i) else none)

-- The cells of the `n`th new row: given values, and defaults elsewhere. Of two values for a column
-- the first one counts.
def newCells? (o : Occasion) (n : Nat) (t : StoredTable) (given : List (Place × Datum)) :
    Option (List Datum) :=
  t.columns.zipIdx.mapM fun (c, i) =>
    match given.find? (·.1 = .column i) with
    | some (_, d) => some d
    | none =>
      if c.generated.isSome || t.rowidColumn = some i then some .null
      else defaultValue? o [i, n, 1] c

-- The number that a new row asks for: none for the next one. Only integers will do, and of two
-- numbers the last one counts.
def wantedNumber? (t : StoredTable) (given : List (Place × Datum)) : Option (Option Int) :=
  let place : Place := (t.rowidColumn).elim .number .column
  match given.reverse.find? (·.1 = place) with
  | none => some none
  | some (_, d) =>
    if t.withoutRowid then some none
    else
      match d.toNumeric with
      | .null => some none
      | .int i => some (some i)
      | _ => none

-- What the rows of a table need can be evaluated: computed columns and, where a change concerns
-- them, conditions.
def isReady (t : StoredTable) (isConcerned : Expr → Bool) : Bool :=
  t.computations.all (·.2.isUsable) &&
    (computationOrder? t.columns.length t.computations).isSome &&
    t.checks.all fun e => !isConcerned e || e.isUsable

def mayReplace (s : Store) (t : StoredTable) (override : Option Conflict) : Bool :=
  match override with
  | some conflict => conflict = .replace
  | none => t.rowidConflict = .replace || (s.uniqueKeysOf t).any (·.conflict = .replace)

-- A row with a number was inserted. Tables without such numbers leave the last one as it was.
def Progress.inserted (p : Progress) (t : StoredTable) (number : Int) : Progress :=
  if t.withoutRowid then p else { p with occasion := { p.occasion with lastRowid := number } }

-- The `n`th new row. `used` is the greatest number used in the table so far, and is given on.
def insertRow? (p : Progress) (t : StoredTable) (conflict : Option Conflict) (used : Int) (n : Nat)
    (given : List (Place × Datum)) : Option (Progress × Int) := do
  let t ← p.store.refresh? t
  let number ← match ← wantedNumber? t given with
    | some n => some n
    | none => nextRowid? t (fun attempt => p.occasion.drawn [attempt, n, 7]) used
  let row : StoredRow := ⟨number, ← newCells? p.occasion n t given⟩
  let used := max used number
  match ← add (chainFuel p.store) p t conflict row with
  | .skipped => return (p, used)
  | .done p => return (p.inserted t number, used)

-- All tables and keys that an insertion refers to are there. Those that refer to the table only
-- matter if several rows change or the reference is checked later.
def isInsertable (s : Store) (t : StoredTable) (replaces several : Bool) : Bool :=
  let change := RowChange.removal t
  if replaces then s.isSupported change
  else
    t.foreignKeys.all (fun key => (s.target? t key).isSome) &&
      (s.childKeys t).all fun (_, key) =>
        !(several || key.reference.deferred) || (s.parentColumns? t key).isSome

def givenValues? (o : Occasion) (n : Nat) (row : List Expr) : Option (List Datum) :=
  row.zipIdx.mapM fun (e, i) => do
    let e ← (Scope.alone .query).resolve? e
    if !e.isUsable then none
    return (← e.eval? { occasion := o, place := [i, n, 0] } []).datum

def insert? (p : Progress) (conflict : Option Conflict) (name : ObjectName)
    (columns : Option (List String)) (source : RowSource) : Option Progress := do
  let s := p.store
  let t ← s.changeable? name
  let places ← places? t columns
  let rows ← match source with
    | .defaults => if columns.isSome then none else some [[]]
    | .values rows => if rows.all (·.length = places.length) then some rows else none
  if !isReady t (fun _ => true) then none
  if !isInsertable s t (mayReplace s t conflict) (1 < rows.length) then none
  let (p, used) ← rows.zipIdx.foldlM (fun (p, used) (row, n) => do
    insertRow? p t conflict used n (places.zip (← givenValues? p.occasion n row)))
    (p, sequenceOf s t)
  return if t.autoincrement then { p with store := setSequence p.store t used } else p

def selected? (o : Occasion) (t : StoredTable) (condition : Option Expr) :
    Option (List StoredRow) := do
  match ← condition.mapM (Scope.ofTable .query t).resolve? with
  | none => return t.orderedRows
  | some e =>
    if !e.isUsable then none
    let rows ← t.orderedRows.mapM fun row => do
      return ((← e.test? ⟨o, [row.rowid, 4], false⟩ row.operands) == some true, row)
    return (rows.filter (·.1)).map (·.2)

def assign? (o : Occasion) (t : StoredTable) (assignments : List (Place × Expr))
    (row : StoredRow) : Option StoredRow := do
  let values : List (Place × Datum) ← assignments.zipIdx.mapM fun ((place, e), i) => do
    return (place, (← e.eval? ⟨o, [i, row.rowid, 5], false⟩ row.operands).datum)
  let cells := values.foldl (fun cells (place, d) => match place with
    | .column i => cells.set i d
    | .number => cells) row.cells
  let place : Place := (t.rowidColumn).elim .number .column
  match values.reverse.find? (·.1 = place) with
  | none => return { row with cells }
  | some (_, d) =>
    match d.toNumeric with
    | .int n => return ⟨n, cells⟩
    | _ => none

def update? (p : Progress) (conflict : Option Conflict) (name : ObjectName)
    (assignments : List (String × Expr)) (condition : Option Expr) : Option Progress := do
  let s := p.store
  let t ← s.changeable? name
  let assignments ← assignments.mapM fun (column, e) => do
    let e ← (Scope.ofTable .query t).resolve? e
    if !e.isUsable then none
    return (← place? t column, e)
  let columns := assignments.filterMap fun (place, _) => match place with
    | .column i => some i
    | .number => none
  let change := update t columns
  let isConcerned (e : Expr) : Bool := e.positions.any fun i => change.changes i ||
    (i = t.columns.length && assignments.any (·.1 = .number))
  if !isReady t isConcerned then none
  if !s.isSupported change || (mayReplace s t conflict && !s.isSupported (.removal t)) then none
  (← selected? p.occasion t condition).foldlM (fun p row => do
    let some row := p.current? t row | return p
    let fuel := chainFuel p.store
    match ← overwrite fuel p t change conflict row (← assign? p.occasion t assignments row) with
    | .skipped => return p
    | .done p => return p) p

def delete? (p : Progress) (name : ObjectName) (condition : Option Expr) : Option Progress := do
  let s := p.store
  let t ← s.changeable? name
  if !s.isSupported (.removal t) then none
  removeAll (chainFuel s) p t (← selected? p.occasion t condition)

-- What is another one whenever a script is executed: the times of its statements, and the numbers
-- that are drawn by chance at the places in them.
structure Surroundings where
  clock : Nat → Int := fun _ => Calendar.unixEpoch
  drawn : List Int → Nat := Function.scattered
  -- what is found when the store is asked afterwards
  asked : Occasion := {}

def Surroundings.occasion (around : Surroundings) (n : Nat) (lastRowid : Int) : Occasion :=
  ⟨around.clock n, fun place => around.drawn (n :: place), lastRowid⟩

-- A store in the course of a script, with the number of references that must hold at the end of
-- the transaction and do not, and what a transaction that is open would return to.
structure Session where
  store : Store := {}
  deferred : Int := 0
  saved : Option Store := none
  -- how many statements have been carried out
  count : Nat := 0
  lastRowid : Int := 0

namespace Session

def start (session : Session) (o : Occasion) : Progress := ⟨session.store, o, 0, session.deferred⟩

-- The session after a statement. No reference may lack its parent then; inside of a transaction
-- deferred ones are checked when it ends.
def settle? (session : Session) (p : Progress) : Option Session :=
  if p.missing > 0 || (session.saved.isNone && p.deferred > 0) then none
  else some { session with
    store := p.store, deferred := p.deferred, lastRowid := p.occasion.lastRowid }

def define? (session : Session) (s : Option Store) : Option Session :=
  s.map fun store => { session with store }

-- A statement carried out on an occasion; none when it is refused.
def step? (o : Occasion) (session : Session) : Statement → Option Session
  | .createTable d => session.define? (createTable? session.store d)
  | .createIndex d => session.define? (createIndex? session.store d)
  | .createView d => session.define? (createView? session.store d)
  | .drop kind ifExists name => do session.settle? (← drop? (session.start o) kind ifExists name)
  | .insert conflict table columns source => do
    session.settle? (← insert? (session.start o) conflict table columns source)
  | .update conflict table assignments condition => do
    session.settle? (← update? (session.start o) conflict table assignments condition)
  | .delete table condition => do session.settle? (← delete? (session.start o) table condition)
  | .begin => if session.saved.isSome then none else some { session with saved := session.store }
  | .commit =>
    if session.saved.isSome && session.deferred ≤ 0 then
      some { session with saved := none }
    else none
  | .rollback =>
    session.saved.map fun s => { session with store := s, deferred := 0, saved := none }

def next? (around : Surroundings) (session : Session) (statement : Statement) : Option Session := do
  let session ← session.step? (around.occasion session.count session.lastRowid) statement
  return { session with count := session.count + 1 }

end Session

-- The store that a list of statements makes; none when one of them is refused.
def run? (around : Surroundings) (statements : List Statement) : Option Store :=
  (statements.foldlM (Session.next? around) {}).map (·.store)

end TableForge.Store
