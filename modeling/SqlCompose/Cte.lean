import SqlCompose.Layout

/-!
# Common table expressions

Named statements in front of another statement.
-/

namespace SqlCompose.Cte

/-- A statement under a name. -/
def ofQuery (name : String) (query : Query) : Cte := ⟨name, [], query, false, none⟩

/-- A statement under a fresh name. -/
def generated (namer : NamerId) (query : Query) : StateM Naming Cte := do
  let name ← Naming.draw namer
  return ofQuery name query

/-- Declares the names of the columns. -/
def withColumns (c : Cte) (columns : List String) : Cte := { c with columns := columns }

/-- Lets the statement refer to itself. -/
def asRecursive (c : Cte) : Cte := { c with recursive := true }

/-- Asks for the rows to be computed once, or not. -/
def withMaterialized (c : Cte) (materialized : Bool) : Cte :=
  { c with materialized := some materialized }

/-- A second reference under a label. -/
def reference (c : Cte) (label : String) : CteReference := ⟨c.name, label⟩

end SqlCompose.Cte
