import SqlCompose.Table

/-!
# Joins

A table joined to those before it.
-/

namespace SqlCompose.Join

def ofKind (kind : JoinKind) (target : TableSource) : Join := ⟨kind, target, [], false⟩

/-- Adds a condition; all of them must hold. -/
def whenever (j : Join) (p : Predicate) : Join := { j with conditions := j.conditions ++ [p] }

def asLateral (j : Join) : Join := { j with lateral := true }

/-- Names the joined table if it is a statement without a label. -/
def ensureLabel (namer : NamerId) (j : Join) : StateM Naming Join := do
  let target ← j.target.ensureLabel namer
  return { j with target := target }

/-- The name of a kind of join. -/
def kindName : JoinKind → String
  | .inner => "Inner"
  | .left => "Left"
  | .right => "Right"
  | .full => "Full"
  | .cross => "Cross"

end SqlCompose.Join
