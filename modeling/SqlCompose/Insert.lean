import SqlCompose.Query

/-!
# `INSERT` statements

Rows given one by one, by a statement or by default, and what is done about conflicts.
-/

namespace SqlCompose

namespace Insert

/-- An insertion of default values. -/
def into (target : BaseTable) : Insert :=
  { ctes := [], target := target, columns := [], rows := [], source := .rows, conflict := none,
    returning := [], label := none, nested := false, dialect := .postgres }

def addCte (s : Insert) (c : Cte) : Insert := { s with ctes := s.ctes ++ [c] }

/-- Adds a value to the first of some rows, which is created if there is none. -/
def addToFirst (v : Field) : List Tuple → List Tuple
  | [] => [⟨[v]⟩]
  | r :: rest => ⟨r.values ++ [v]⟩ :: rest

def assign (s : Insert) (column value : Field) : Insert :=
  { s with columns := s.columns ++ [column], rows := addToFirst value s.rows }

def assign? (s : Insert) (column : Field) (value : Option Field) : Insert :=
  value.elim s (s.assign column)

def withColumns (s : Insert) (columns : List Field) : Insert := { s with columns := columns }

def addRow (s : Insert) (values : List Field) : Insert := { s with rows := s.rows ++ [⟨values⟩] }

def fromQuery (s : Insert) (q : Query) : Insert := { s with source := .query q }

def defaultValues (s : Insert) : Insert := { s with columns := [], rows := [], source := .rows }

def onConflict (s : Insert) (target : ConflictTarget) (action : ConflictAction) : Insert :=
  { s with conflict := some ⟨target, action⟩ }

def addReturning (s : Insert) (fields : List Field) : Insert :=
  { s with returning := s.returning ++ fields }

def returningOne (s : Insert) : Insert := { s with returning := [.raw "1"] }

def labelled (s : Insert) (label : String) : Insert := { s with label := some label }

def inDialect (s : Insert) (d : Dialect) : Insert := { s with dialect := d }

def asNested (s : Insert) : Insert := { s with nested := true }

end Insert

namespace ConflictAction

/-- An update of nothing yet. -/
def updateNothing : ConflictAction := .update [] []

def assign (a : ConflictAction) (column value : Field) : ConflictAction :=
  match a with
  | .update assignments filters => .update (assignments ++ [⟨column, value⟩]) filters
  | .nothing => .nothing

def assignExcluded (a : ConflictAction) (column : Field) : ConflictAction :=
  a.assign column column.excluded

def addFilter (a : ConflictAction) (p : Predicate) : ConflictAction :=
  match a with
  | .update assignments filters => .update assignments (filters ++ [p])
  | .nothing => .nothing

end ConflictAction

/-- Adds a condition on a conflict target; one on a constraint is never written. -/
def ConflictTarget.addFilter : ConflictTarget → Predicate → ConflictTarget
  | .any, _ => .any
  | .columns fields filters, p => .columns fields (filters ++ [p])
  | .constraint name filters, p => .constraint name (filters ++ [p])

end SqlCompose
