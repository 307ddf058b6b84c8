import SqlCompose.Join
import SqlCompose.Query

/-!
# `DELETE` statements
-/

namespace SqlCompose.Delete

/-- A deletion from a table, with a namer of its own. -/
def new (target : BaseTable) : StateM Naming Delete := do
  let namer ← Naming.allocate .subqueries
  return {
    ctes := [], target := target, sources := [], joins := [], filters := [], returning := [],
    label := none, namer := namer, nested := false, dialect := .postgres }

def addCte (s : Delete) (c : Cte) : Delete := { s with ctes := s.ctes ++ [c] }

def nameFrom (s : Delete) (namer : NamerId) : Delete := { s with namer := namer }

def addSource (s : Delete) (t : TableSource) : StateM Naming Delete := do
  let t ← t.ensureLabel s.namer
  return { s with sources := s.sources ++ [t] }

def addJoin (s : Delete) (j : Join) : StateM Naming Delete := do
  let j ← j.ensureLabel s.namer
  return { s with joins := s.joins ++ [j] }

/-- Adds a condition; all of them must hold. -/
def addFilter (s : Delete) (p : Predicate) : Delete := { s with filters := s.filters ++ [p] }

def addFilter? (s : Delete) (p : Option Predicate) : Delete := p.elim s s.addFilter

def addReturning (s : Delete) (fields : List Field) : Delete :=
  { s with returning := s.returning ++ fields }

def returningOne (s : Delete) : Delete := { s with returning := [.raw "1"] }

def labelled (s : Delete) (label : String) : Delete := { s with label := some label }

def inDialect (s : Delete) (d : Dialect) : Delete := { s with dialect := d }

def asNested (s : Delete) : Delete := { s with nested := true }

end SqlCompose.Delete
