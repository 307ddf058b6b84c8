import SqlCompose.Query

/-!
# Combined statements

`UNION`, `INTERSECT` and `EXCEPT` chains, with an order and a limit of the whole.
-/

namespace SqlCompose.SetOperation

/-- A chain that starts with a statement. -/
def start (head : Query) : SetOperation :=
  { head := head, arms := [], orderBy := [], limit := none, offset := none, label := none,
    nested := false, dialect := .postgres }

def combine (s : SetOperation) (operator : SetOperator) (q : Query) : SetOperation :=
  { s with arms := s.arms ++ [⟨operator, q⟩] }

def addOrder (s : SetOperation) (f : Field) : SetOperation := { s with orderBy := s.orderBy ++ [f] }

def takeRows (s : SetOperation) (n : Int64) : SetOperation := { s with limit := some n }

def skipRows (s : SetOperation) (n : Int64) : SetOperation := { s with offset := some n }

def labelled (s : SetOperation) (label : String) : SetOperation := { s with label := some label }

def inDialect (s : SetOperation) (d : Dialect) : SetOperation := { s with dialect := d }

def asNested (s : SetOperation) : SetOperation := { s with nested := true }

end SqlCompose.SetOperation
