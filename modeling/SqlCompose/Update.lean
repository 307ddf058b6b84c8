import SqlCompose.Join
import SqlCompose.Query

/-!
# `UPDATE` statements
-/

namespace SqlCompose.Update

/-- An update of a table, with a namer of its own. -/
def new (target : BaseTable) : StateM Naming Update := do
  let namer ← Naming.allocate .subqueries
  return {
    ctes := [], target := target, assignments := [], sources := [], joins := [], filters := [],
    returning := [], label := none, namer := namer, nested := false, dialect := .postgres }

def addCte (s : Update) (c : Cte) : Update := { s with ctes := s.ctes ++ [c] }

def assign (s : Update) (column value : Field) : Update :=
  { s with assignments := s.assignments ++ [⟨column, value⟩] }

def assign? (s : Update) (column : Field) (value : Option Field) : Update :=
  value.elim s (s.assign column)

def assignRaw (s : Update) (column : Field) (sql : String) : Update := s.assign column (.raw sql)

def nameFrom (s : Update) (namer : NamerId) : Update := { s with namer := namer }

def addSource (s : Update) (t : TableSource) : StateM Naming Update := do
  let t ← t.ensureLabel s.namer
  return { s with sources := s.sources ++ [t] }

def addJoin (s : Update) (j : Join) : StateM Naming Update := do
  let j ← j.ensureLabel s.namer
  return { s with joins := s.joins ++ [j] }

/-- Adds a condition; all of them must hold. -/
def addFilter (s : Update) (p : Predicate) : Update := { s with filters := s.filters ++ [p] }

def addFilter? (s : Update) (p : Option Predicate) : Update := p.elim s s.addFilter

def addReturning (s : Update) (fields : List Field) : Update :=
  { s with returning := s.returning ++ fields }

def returningOne (s : Update) : Update := { s with returning := [.raw "1"] }

def labelled (s : Update) (label : String) : Update := { s with label := some label }

def inDialect (s : Update) (d : Dialect) : Update := { s with dialect := d }

def asNested (s : Update) : Update := { s with nested := true }

end SqlCompose.Update
