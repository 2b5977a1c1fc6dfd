import TableForge.Script.Expr.Basic

namespace TableForge.Script

-- The name of a table, an index or a view, with the schema before it if one is given.
structure ObjectName where
  schema : Option String
  name : String
  deriving DecidableEq, Repr

-- What becomes of a row that violates a constraint, and of the statement that writes it.
inductive Conflict where
  | rollback
  | abort
  | fail
  | ignore
  | replace
  deriving DecidableEq, Repr

inductive ReferenceAction where
  | none
  | restrict
  | cascade
  | setNull
  | setDefault
  deriving DecidableEq, Repr

structure Reference where
  table : String
  columns : List String
  onDelete : ReferenceAction
  onUpdate : ReferenceAction
  deferred : Bool
  deriving DecidableEq, Repr

-- A part of a key: a column or an expression, and its direction.
structure KeyPart where
  expr : Expr
  descending : Bool
  deriving Repr

inductive ColumnRule where
  | primaryKey (descending : Bool) (conflict : Option Conflict) (autoincrement : Bool)
  | notNull (conflict : Option Conflict)
  | unique (conflict : Option Conflict)
  | check (e : Expr)
  | default (e : Expr)
  -- a collation that is not known is none
  | collate (c : Option Collation)
  | references (r : Reference)
  -- when the last reference so far is checked
  | deferral (deferred : Bool)
  -- a value computed from other columns, which may be kept in the row
  | generated (e : Expr) (stored : Bool)
  -- one that does not restrict anything
  | idle
  deriving Repr

structure ColumnDefinition where
  name : String
  type : String
  -- without a type values stay as they are
  affinity : Affinity
  rules : List ColumnRule
  deriving Repr

inductive TableRule where
  | primaryKey (parts : List KeyPart) (conflict : Option Conflict) (autoincrement : Bool)
  | unique (parts : List KeyPart) (conflict : Option Conflict)
  | check (e : Expr)
  | foreignKey (columns : List String) (r : Reference)
  | idle
  deriving Repr

structure TableDefinition where
  temporary : Bool
  ifMissing : Bool
  name : ObjectName
  columns : List ColumnDefinition
  rules : List TableRule
  withoutRowid : Bool
  strict : Bool
  -- what the store keeps of the statement
  text : String
  deriving Repr

structure IndexDefinition where
  unique : Bool
  ifMissing : Bool
  name : ObjectName
  table : String
  parts : List KeyPart
  condition : Option Expr
  text : String
  deriving Repr

inductive SelectItem where
  -- all columns, perhaps with the name of their table
  | all (table : Option String)
  -- an expression with the name that is given to it, and as it is written
  | expr (e : Expr) (name : Option String) (written : String)
  deriving Repr

structure Select where
  distinct : Bool
  items : List SelectItem
  table : Option ObjectName
  -- the name that the table has in the query
  tableName : Option String
  condition : Option Expr
  -- what the rows of a group have in common, and which groups count
  groups : List Expr
  having : Option Expr
  deriving Repr

inductive QueryPart where
  | select (s : Select)
  | values (rows : List (List Expr))
  deriving Repr

inductive Combination where
  | unionAll
  | union
  | intersect
  | except
  deriving DecidableEq, Repr

structure Query where
  first : QueryPart
  rest : List (Combination × QueryPart)
  order : List KeyPart
  -- how many rows there are at most, and how many are left out before them
  limit : Option Expr
  offset : Option Expr
  deriving Repr

structure ViewDefinition where
  temporary : Bool
  ifMissing : Bool
  name : ObjectName
  columns : List String
  -- nothing for a query that cannot be answered
  query : Option Query
  -- the schemas that the query names
  schemas : List String
  text : String
  deriving Repr

inductive RowSource where
  | values (rows : List (List Expr))
  | defaults
  deriving Repr

inductive ObjectKind where
  | table
  | index
  | view
  deriving DecidableEq, Repr

inductive Statement where
  | createTable (d : TableDefinition)
  | createIndex (d : IndexDefinition)
  | createView (d : ViewDefinition)
  | drop (kind : ObjectKind) (ifExists : Bool) (name : ObjectName)
  | insert (conflict : Option Conflict) (table : ObjectName) (columns : Option (List String))
      (source : RowSource)
  | update (conflict : Option Conflict) (table : ObjectName)
      (assignments : List (String × Expr)) (condition : Option Expr)
  | delete (table : ObjectName) (condition : Option Expr)
  | begin
  | commit
  | rollback
  deriving Repr

end TableForge.Script
