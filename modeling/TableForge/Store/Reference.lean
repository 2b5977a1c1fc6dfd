import TableForge.Store.Row

namespace TableForge.Store

open Script (Reference ReferenceAction)

-- The keys that no two rows of a table share: those of its unique indices and its own ones, the
-- newest first.
def uniqueKeysOf (s : Store) (t : StoredTable) : List RowKey :=
  let indices := s.indices.filter fun i =>
    i.isUnique && i.temporary == t.temporary && Text.sameLetters i.table t.name
  (t.uniqueKeys ++ indices.map (·.key)).reverse

structure ParentColumn where
  index : Nat
  affinity : Affinity
  collation : Collation

def parentColumn? (parent : StoredTable) (collation : Option Collation) (i : Nat) :
    Option ParentColumn :=
  (parent.columns[i]?).map fun c => ⟨i, c.affinity, collation.getD c.collation⟩

-- The key is on just these columns, each under its own collation, and has no condition.
def isKeyOn (columns : List Nat) (key : RowKey) : Bool :=
  let own := key.terms.mapM fun term =>
    match term.expr with
    | .column i _ collation => if collation.getD .binary == term.collation then some i else none
    | _ => none
  key.condition.isNone && own.any fun found =>
    found.length = columns.length && found.all (columns.contains ·) &&
      columns.all (found.contains ·)

-- The columns of a parent table that a foreign key refers to: those it names, which must be the
-- number of the row or a unique key, or else the primary key.
def parentColumns? (s : Store) (parent : StoredTable) (key : ForeignKey) :
    Option (List ParentColumn) := do
  if key.reference.columns.isEmpty then
    if parent.primaryKey.length ≠ key.columns.length || parent.primaryKey.isEmpty then none
    parent.primaryKey.mapM fun k => parentColumn? parent (some k.collation) k.index
  else
    let found ← key.reference.columns.mapM parent.columnIndex?
    let isNumber := parent.rowidColumn.any fun i => found = [i]
    if isNumber || (s.uniqueKeysOf parent).any (isKeyOn found) then
      found.mapM (parentColumn? parent none)
    else none

-- The parent table of a foreign key is in the same schema as the child.
def parentOf? (s : Store) (child : StoredTable) (key : ForeignKey) : Option StoredTable :=
  s.tableIn? child.temporary key.reference.table

def target? (s : Store) (child : StoredTable) (key : ForeignKey) :
    Option (StoredTable × List ParentColumn) := do
  let parent ← s.parentOf? child key
  return (parent, ← s.parentColumns? parent key)

def childKeys (s : Store) (t : StoredTable) : List (StoredTable × ForeignKey) :=
  s.tables.reverse.flatMap fun child =>
    if child.temporary != t.temporary then []
    else (child.foreignKeys.filter fun key =>
      Text.sameLetters key.reference.table t.name).map (child, ·)

-- The values of a foreign key in a row; none if one of them is null.
def foreignValues? (key : ForeignKey) (row : StoredRow) : Option (List Datum) :=
  let values := key.columns.map fun i => row.cells.getD i .null
  if values.any Datum.isNull then none else some values

-- The values of a foreign key are those of a parent row, as the parent's columns see them.
def refersTo (columns : List ParentColumn) (values : List Datum) (row : StoredRow) : Bool :=
  (columns.zip values).all fun (c, d) =>
    Datum.same c.collation (c.affinity.apply d) (row.cells.getD c.index .null)

-- A row that is written refers to itself: its values are the same as they stand.
def refersToItself (columns : List ParentColumn) (values : List Datum) (row : StoredRow) : Bool :=
  (columns.zip values).all fun (c, d) =>
    let d := if columns.length = 1 && c.affinity = .integer then d.toNumeric else d
    Datum.same .binary d (row.cells.getD c.index .null)

def familyAffinity (a b : Affinity) : Affinity :=
  if a.isNumeric || b.isNumeric then .numeric else .blob

def isChildOf (child : StoredTable) (key : ForeignKey) (columns : List ParentColumn)
    (parentRow childRow : StoredRow) : Bool :=
  (columns.zip key.columns).all fun (c, i) =>
    let x := parentRow.cells.getD c.index .null
    let y := childRow.cells.getD i .null
    let (a, b) :=
      Datum.comparable (familyAffinity c.affinity ((child.columns[i]?).elim .blob (·.affinity))) x y
    !x.isNull && !y.isNull && Datum.same c.collation a b

-- A change of the rows of a table: they go, or some of their columns change.
structure RowChange where
  temporary : Bool
  table : String
  -- none when rows go
  columns : Option (List Nat)
  deriving DecidableEq

namespace RowChange

def removal (t : StoredTable) : RowChange := ⟨t.temporary, t.name, none⟩

def changes (c : RowChange) (i : Nat) : Bool := c.columns.all (·.contains i)

end RowChange

def withComputed (t : StoredTable) (columns : List Nat) : List Nat :=
  t.computations.foldl (fun found _ =>
    found ++ (t.computations.filterMap fun (i, e) =>
      if !found.contains i && e.positions.any (found.contains ·) then some i else none)) columns

def update (t : StoredTable) (columns : List Nat) : RowChange :=
  ⟨t.temporary, t.name, some (withComputed t columns)⟩

def isChildChanged (c : RowChange) (key : ForeignKey) : Bool := key.columns.any c.changes

-- A foreign key refers to a column of the table that changes. Without columns it refers to the
-- primary key.
def isParentChanged (c : RowChange) (t : StoredTable) (key : ForeignKey) : Bool :=
  let named := if key.reference.columns.isEmpty then t.primaryKey.map (·.index)
    else key.reference.columns.filterMap t.columnIndex?
  c.columns.isNone || named.any c.changes

def needsReferences (s : Store) (t : StoredTable) (c : RowChange) : Bool :=
  t.foreignKeys.any (isChildChanged c) ||
    (s.childKeys t).any fun (_, key) => isParentChanged c t key

-- The foreign keys of a table that a change checks. One that refers to its own table is checked
-- with any other.
def checkedKeys (s : Store) (t : StoredTable) (c : RowChange) : List ForeignKey :=
  if !s.needsReferences t c then []
  else t.foreignKeys.filter fun key =>
    Text.sameLetters key.reference.table t.name || isChildChanged c key

def checkedChildKeys (s : Store) (t : StoredTable) (c : RowChange) :
    List (StoredTable × ForeignKey) :=
  (s.childKeys t).filter fun (_, key) => isParentChanged c t key

def actionOf (c : RowChange) (key : ForeignKey) : ReferenceAction :=
  if c.columns.isNone then key.reference.onDelete else key.reference.onUpdate

def passedOn? (c : RowChange) (child : StoredTable) (key : ForeignKey) : Option RowChange :=
  match actionOf c key with
  | .none | .restrict => none
  | .cascade => some (if c.columns.isNone then .removal child else update child key.columns)
  | .setNull | .setDefault => some (update child key.columns)

-- A foreign key can be given other values if a change that it passes on asks for it.
def isAssignable (child : StoredTable) (key : ForeignKey) (passed : Option RowChange) : Bool :=
  let isPlain (i : Nat) : Bool := (child.columns[i]?).all (·.generated.isNone)
  passed.all fun c => c.columns.isNone || key.columns.all isPlain

-- All foreign keys that the changes and those that they pass on would check have their parents.
-- Each change takes a unit of fuel.
def areSupported : Nat → Store → List RowChange → List RowChange → Bool
  | 0, _, _, _ => true
  | _ + 1, _, _, [] => true
  | fuel + 1, s, seen, c :: rest =>
    if seen.contains c then areSupported fuel s seen rest
    else
      match s.tableIn? c.temporary c.table with
      | none => areSupported fuel s seen rest
      | some t =>
        let children := s.checkedChildKeys t c
        (s.checkedKeys t c).all (fun key => (s.target? t key).isSome) &&
          children.all (fun (child, key) =>
            (s.parentColumns? t key).isSome && isAssignable child key (passedOn? c child key)) &&
          areSupported fuel s (c :: seen)
            (children.filterMap (fun (child, key) => passedOn? c child key) ++ rest)

def areSupportedAfter (s : Store) (c : RowChange) (passed : List RowChange) : Bool :=
  let keys := s.tables.foldl (fun n t => n + t.foreignKeys.length) 1
  areSupported (2 * (keys + 1) * (keys + 1)) s [c] passed

def isSupported (s : Store) (c : RowChange) : Bool :=
  let keys := s.tables.foldl (fun n t => n + t.foreignKeys.length) 1
  areSupported (2 * (keys + 1) * (keys + 1)) s [] [c]

end TableForge.Store
