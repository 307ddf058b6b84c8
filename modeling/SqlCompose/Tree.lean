import SqlCompose.Dialect
import SqlCompose.Naming
import SqlCompose.Value.Basic

/-!
# Statement trees

The nodes of SQL statements. Expressions, predicates, tables and statements refer to one another, so
they are declared together. A node that stands for a table or a statement may carry a label, the
name that follows `AS`.
-/

namespace SqlCompose

inductive SortOrder where
  | asc
  | desc
  deriving DecidableEq, Repr

inductive NullsOrder where
  | first
  | last
  deriving DecidableEq, Repr

/-- How the members of a group of predicates are connected. -/
inductive Connective where
  | and
  | or
  deriving DecidableEq, Repr

inductive JoinKind where
  | inner
  | left
  | right
  | full
  | cross
  deriving DecidableEq, Repr

inductive SetOperator where
  | union
  | unionAll
  | intersect
  | intersectAll
  | except
  | exceptAll
  deriving DecidableEq, Repr

inductive LockStrength where
  | update
  | noKeyUpdate
  | share
  | keyShare
  deriving DecidableEq, Repr

/-- What to do about rows that are locked already. -/
inductive LockWait where
  | wait
  | noWait
  | skipLocked
  deriving DecidableEq, Repr

/-- A locking clause; `tables` restricts it to some qualifiers. -/
structure Lock where
  strength : LockStrength
  tables : List String
  wait : LockWait
  deriving DecidableEq, Repr

/-- A physical table with its declared columns. -/
structure BaseTable where
  schema : String
  name : String
  label : Option String
  columns : List (String × FieldType)
  deriving DecidableEq, Repr

/-- A second reference to a common table expression, under a label of its own. -/
structure CteReference where
  name : String
  label : String
  deriving DecidableEq, Repr

mutual

/-- What a field is. -/
inductive Expr where
  | literal (v : Value)
  /-- A column, qualified by a table or not. -/
  | column (qualifier : Option String) (name : String)
  /-- A template with its arguments. -/
  | computed (template : String) (args : List Arg)
  | null

/-- An expression with a declared type, a label and an order to sort by. -/
structure Field where
  expr : Expr
  type : FieldType
  label : Option String
  order : Option SortOrder
  nulls : Option NullsOrder

/-- What fills a slot of a template. -/
inductive Arg where
  | null
  | value (v : Value)
  /-- Values with commas between them. -/
  | list (vs : List Value)
  | field (f : Field)
  | predicate (p : Predicate)
  | table (t : TableSource)
  | query (q : Query)

inductive Predicate where
  /-- An operand before an operator. -/
  | unary (operand : Option Field) (op : String)
  /-- An operator between two operands. -/
  | binary (lhs : Option Field) (op : String) (rhs : Option Field)
  /-- An operand, an operator and two bounds. -/
  | ternary (operand : Option Field) (op : String) (low high : Option Field)
  /-- Members that must all hold, or one of which must; a top-level group has no parentheses. -/
  | group (connective : Connective) (members : List Predicate) (topLevel : Bool)
  | negation (p : Predicate)
  /-- Whether a statement has a row, or none. -/
  | existence (q : Query) (negated : Bool)
  /-- A template with its arguments. -/
  | custom (template : String) (args : List Arg)

/-- A table expression given by a template. -/
structure CustomTable where
  template : String
  args : List Arg
  label : Option String

/-- A statement with a name that other parts of the same statement refer to. -/
structure Cte where
  name : String
  columns : List String
  query : Query
  recursive : Bool
  materialized : Option Bool

/-- What may stand where a table is expected. -/
inductive TableSource where
  | base (t : BaseTable)
  | cte (c : Cte)
  | reference (c : CteReference)
  | query (q : Query)
  | custom (t : CustomTable)

/-- A join of a table on conditions that must all hold. -/
structure Join where
  kind : JoinKind
  target : TableSource
  conditions : List Predicate
  lateral : Bool

/-- Which duplicate rows a `SELECT` leaves out. -/
inductive Distinct where
  | off
  | rows
  /-- Rows that agree on some fields. -/
  | byFields (fields : List Field)

structure Select where
  ctes : List Cte
  distinct : Distinct
  projections : List Field
  sources : List TableSource
  joins : List Join
  filters : List Predicate
  groupBy : List Field
  having : List Predicate
  orderBy : List Field
  limit : Option Int64
  offset : Option Int64
  lock : Option Lock
  label : Option String
  namer : NamerId
  nested : Bool
  dialect : Dialect

/-- One column and the value it is set to. -/
structure Assignment where
  column : Field
  value : Field

/-- What an insertion may be in conflict with. -/
inductive ConflictTarget where
  | any
  /-- A unique index on some columns, partial if there are filters. -/
  | columns (fields : List Field) (filters : List Predicate)
  | constraint (name : String) (filters : List Predicate)

/-- What is done about a conflict. -/
inductive ConflictAction where
  | nothing
  | update (assignments : List Assignment) (filters : List Predicate)

/-- The conflict clause of an insertion. -/
structure Conflict where
  target : ConflictTarget
  action : ConflictAction

/-- The values of one inserted row. -/
structure Tuple where
  values : List Field

/-- Where the rows of an insertion come from. -/
inductive InsertSource where
  | rows
  | query (q : Query)

structure Insert where
  ctes : List Cte
  target : BaseTable
  columns : List Field
  rows : List Tuple
  source : InsertSource
  conflict : Option Conflict
  returning : List Field
  label : Option String
  nested : Bool
  dialect : Dialect

structure Update where
  ctes : List Cte
  target : BaseTable
  assignments : List Assignment
  sources : List TableSource
  joins : List Join
  filters : List Predicate
  returning : List Field
  label : Option String
  namer : NamerId
  nested : Bool
  dialect : Dialect

structure Delete where
  ctes : List Cte
  target : BaseTable
  sources : List TableSource
  joins : List Join
  filters : List Predicate
  returning : List Field
  label : Option String
  namer : NamerId
  nested : Bool
  dialect : Dialect

/-- A statement added to a combination by an operator. -/
structure Arm where
  operator : SetOperator
  query : Query

/-- Statements combined by operators, in the order in which they were added. -/
structure SetOperation where
  head : Query
  arms : List Arm
  orderBy : List Field
  limit : Option Int64
  offset : Option Int64
  label : Option String
  nested : Bool
  dialect : Dialect

inductive Query where
  | select (s : Select)
  | insert (s : Insert)
  | update (s : Update)
  | delete (s : Delete)
  | setOperation (s : SetOperation)

end

end SqlCompose
