import SqlCompose.Function
import SqlCompose.Join
import SqlCompose.Query

/-!
# `SELECT` statements

Builders add to one clause each. Adding a statement without a label as a table draws a name for it,
so those builders are computations on the namers.
-/

namespace SqlCompose.Select

/-- A `SELECT` of every column of nothing, with a namer of its own. -/
def new : StateM Naming Select := do
  let namer ← Naming.allocate .subqueries
  return {
    ctes := [], distinct := .off, projections := [], sources := [], joins := [], filters := [],
    groupBy := [], having := [], orderBy := [], limit := none, offset := none, lock := none,
    label := none, namer := namer, nested := false, dialect := .postgres }

/-! ## Projection -/

def columns (s : Select) (fields : List Field) : Select := { s with projections := fields }

def addColumn (s : Select) (f : Field) : Select := { s with projections := s.projections ++ [f] }

def selectOne (s : Select) : Select := s.columns [.raw "1"]

def selectCount (s : Select) : Select := s.columns [Function.countAll]

def distinctRows (s : Select) : Select := { s with distinct := .rows }

def distinctBy (s : Select) (fields : List Field) : Select :=
  { s with distinct := .byFields fields }

/-! ## Tables -/

def addCte (s : Select) (c : Cte) : Select := { s with ctes := s.ctes ++ [c] }

def nameFrom (s : Select) (namer : NamerId) : Select := { s with namer := namer }

def addSource (s : Select) (t : TableSource) : StateM Naming Select := do
  let t ← t.ensureLabel s.namer
  return { s with sources := s.sources ++ [t] }

def addJoin (s : Select) (j : Join) : StateM Naming Select := do
  let j ← j.ensureLabel s.namer
  return { s with joins := s.joins ++ [j] }

/-! ## Conditions, groups and order -/

/-- Adds a condition; all of them must hold. -/
def addFilter (s : Select) (p : Predicate) : Select := { s with filters := s.filters ++ [p] }

def addFilter? (s : Select) (p : Option Predicate) : Select := p.elim s s.addFilter

def addGroups (s : Select) (fields : List Field) : Select :=
  { s with groupBy := s.groupBy ++ fields }

def addHaving (s : Select) (p : Predicate) : Select := { s with having := s.having ++ [p] }

def addOrder (s : Select) (f : Field) : Select := { s with orderBy := s.orderBy ++ [f] }

def takeRows (s : Select) (n : Int64) : Select := { s with limit := some n }

def skipRows (s : Select) (n : Int64) : Select := { s with offset := some n }

/-- Takes one page of rows. Pages count from one; a page has at least one row. -/
def paginate (s : Select) (page size : Int64) : Select :=
  let page := if page < 1 then 1 else page
  let size := if size < 1 then 1 else size
  { s with limit := some size, offset := some ((page - 1) * size) }

/-! ## Locks -/

/-- Locks the rows; restrictions of an earlier lock are forgotten. -/
def lockRows (s : Select) (strength : LockStrength) : Select :=
  { s with lock := some ⟨strength, [], .wait⟩ }

def lockTables (s : Select) (tables : List String) : Select :=
  { s with lock := s.lock.map fun l => { l with tables := tables } }

def whenLocked (s : Select) (w : LockWait) : Select :=
  { s with lock := s.lock.map fun l => { l with wait := w } }

/-! ## Identity -/

def labelled (s : Select) (label : String) : Select := { s with label := some label }

def labelFrom (s : Select) (namer : NamerId) : StateM Naming Select :=
  match s.label with
  | none => do
    let name ← Naming.draw namer
    return s.labelled name
  | some _ => return s

def inDialect (s : Select) (d : Dialect) : Select := { s with dialect := d }

def asNested (s : Select) : Select := { s with nested := true }

def embedded (s : Select) : Query := .select s.asNested

/-! ## Counting and existence -/

def unordered (s : Select) : Select :=
  { s with orderBy := [], limit := none, offset := none, lock := none }

/-- Whether the rows are not those of the tables one by one: they are grouped or made distinct. -/
def regroups (s : Select) : Bool :=
  !s.groupBy.isEmpty || !s.having.isEmpty ||
    match s.distinct with
    | .off => false
    | _ => true

/-- The statement that counts the rows. Grouped or distinct rows are counted from outside. -/
def countQuery (s : Select) : StateM Naming Select := do
  let inner := s.unordered
  if inner.regroups then
    let outer ← new
    let outer := (outer.columns [Function.countAll]).inDialect s.dialect
    let outer ← outer.addSource (.query { inner with label := none }.embedded)
    return { outer with nested := s.nested }
  else return inner.columns [Function.countAll]

/-- The statement that says whether there is a row. -/
def existsQuery (s : Select) : StateM Naming Select := do
  let inner := { s.selectOne with label := none }
  let outer ← new
  let outer := (outer.columns [.custom "EXISTS(?)" [.query inner.embedded]]).inDialect s.dialect
  return { outer with nested := s.nested }

end SqlCompose.Select
