import SqlCompose.Delete
import SqlCompose.Select
import SqlCompose.Update

/-!
# Edits

The steps by which a statement is built, as data, so that whole programs that build statements can
be talked about. Running an edit is the builder of that name.
-/

namespace SqlCompose

/-- To give a `SELECT` a drawn label is to draw a name and then `labelled`. -/
inductive Select.Edit where
  | columns (fields : List Field)
  | addColumn (f : Field)
  | selectOne
  | selectCount
  | distinctRows
  | distinctBy (fields : List Field)
  | addCte (c : Cte)
  | nameFrom (namer : NamerId)
  | addSource (t : TableSource)
  | addJoin (j : Join)
  | addFilter (p : Predicate)
  | addFilter? (p : Option Predicate)
  | addGroups (fields : List Field)
  | addHaving (p : Predicate)
  | addOrder (f : Field)
  | takeRows (n : Int64)
  | skipRows (n : Int64)
  | paginate (page size : Int64)
  | lockRows (strength : LockStrength)
  | lockTables (tables : List String)
  | whenLocked (w : LockWait)
  | labelled (label : String)
  | inDialect (d : Dialect)
  | asNested

inductive Update.Edit where
  | addCte (c : Cte)
  | assign (column value : Field)
  | assign? (column : Field) (value : Option Field)
  | assignRaw (column : Field) (sql : String)
  | nameFrom (namer : NamerId)
  | addSource (t : TableSource)
  | addJoin (j : Join)
  | addFilter (p : Predicate)
  | addFilter? (p : Option Predicate)
  | addReturning (fields : List Field)
  | returningOne
  | labelled (label : String)
  | inDialect (d : Dialect)
  | asNested

inductive Delete.Edit where
  | addCte (c : Cte)
  | nameFrom (namer : NamerId)
  | addSource (t : TableSource)
  | addJoin (j : Join)
  | addFilter (p : Predicate)
  | addFilter? (p : Option Predicate)
  | addReturning (fields : List Field)
  | returningOne
  | labelled (label : String)
  | inDialect (d : Dialect)
  | asNested

namespace Select.Edit

def run (s : Select) : Edit → StateM Naming Select
  | .columns fields => return s.columns fields
  | .addColumn f => return s.addColumn f
  | .selectOne => return s.selectOne
  | .selectCount => return s.selectCount
  | .distinctRows => return s.distinctRows
  | .distinctBy fields => return s.distinctBy fields
  | .addCte c => return s.addCte c
  | .nameFrom namer => return s.nameFrom namer
  | .addSource t => s.addSource t
  | .addJoin j => s.addJoin j
  | .addFilter p => return s.addFilter p
  | .addFilter? p => return s.addFilter? p
  | .addGroups fields => return s.addGroups fields
  | .addHaving p => return s.addHaving p
  | .addOrder f => return s.addOrder f
  | .takeRows n => return s.takeRows n
  | .skipRows n => return s.skipRows n
  | .paginate page size => return s.paginate page size
  | .lockRows strength => return s.lockRows strength
  | .lockTables tables => return s.lockTables tables
  | .whenLocked w => return s.whenLocked w
  | .labelled label => return s.labelled label
  | .inDialect d => return s.inDialect d
  | .asNested => return s.asNested

end Select.Edit

namespace Update.Edit

def run (s : Update) : Edit → StateM Naming Update
  | .addCte c => return s.addCte c
  | .assign column value => return s.assign column value
  | .assign? column value => return s.assign? column value
  | .assignRaw column sql => return s.assignRaw column sql
  | .nameFrom namer => return s.nameFrom namer
  | .addSource t => s.addSource t
  | .addJoin j => s.addJoin j
  | .addFilter p => return s.addFilter p
  | .addFilter? p => return s.addFilter? p
  | .addReturning fields => return s.addReturning fields
  | .returningOne => return s.returningOne
  | .labelled label => return s.labelled label
  | .inDialect d => return s.inDialect d
  | .asNested => return s.asNested

/-- The conditions that an edit adds. -/
def conditions : Edit → List Predicate
  | .addFilter p => [p]
  | .addFilter? p => p.toList
  | _ => []

/-- An edit keeps the conditions of earlier ones. -/
theorem filters_run (s : Update) (c : Edit) (n : Naming) :
    ((c.run s).run n).1.filters = s.filters ++ c.conditions := by
  cases c with
  | addFilter p => rfl
  | addFilter? p =>
      cases p with
      | none => exact (List.append_nil _).symm
      | some p => rfl
  | assign? _ value => cases value <;> exact (List.append_nil _).symm
  | _ => exact (List.append_nil _).symm

end Update.Edit

namespace Delete.Edit

def run (s : Delete) : Edit → StateM Naming Delete
  | .addCte c => return s.addCte c
  | .nameFrom namer => return s.nameFrom namer
  | .addSource t => s.addSource t
  | .addJoin j => s.addJoin j
  | .addFilter p => return s.addFilter p
  | .addFilter? p => return s.addFilter? p
  | .addReturning fields => return s.addReturning fields
  | .returningOne => return s.returningOne
  | .labelled label => return s.labelled label
  | .inDialect d => return s.inDialect d
  | .asNested => return s.asNested

def conditions : Edit → List Predicate
  | .addFilter p => [p]
  | .addFilter? p => p.toList
  | _ => []

theorem filters_run (s : Delete) (c : Edit) (n : Naming) :
    ((c.run s).run n).1.filters = s.filters ++ c.conditions := by
  cases c with
  | addFilter p => rfl
  | addFilter? p =>
      cases p with
      | none => exact (List.append_nil _).symm
      | some p => rfl
  | _ => exact (List.append_nil _).symm

end Delete.Edit

/-! ## Many edits -/

/-- A computation on the namers in steps keeps what every step keeps. -/
theorem filters_foldlM {σ κ : Type} (run : σ → κ → StateM Naming σ) (filters : σ → List Predicate)
    (conditions : κ → List Predicate)
    (h : ∀ s c n, filters ((run s c).run n).1 = filters s ++ conditions c) (s : σ) (cs : List κ)
    (n : Naming) : filters ((cs.foldlM run s).run n).1 = filters s ++ cs.flatMap conditions := by
  induction cs generalizing s n with
  | nil => exact (List.append_nil _).symm
  | cons c cs ih =>
      rw [List.foldlM_cons, List.flatMap_cons, ← List.append_assoc, ← h s c n]
      exact ih _ _

def Update.built (target : BaseTable) (edits : List Update.Edit) : StateM Naming Update := do
  let s ← Update.new target
  edits.foldlM Update.Edit.run s

def Delete.built (target : BaseTable) (edits : List Delete.Edit) : StateM Naming Delete := do
  let s ← Delete.new target
  edits.foldlM Delete.Edit.run s

/-- The filters of an update are the conditions ever added, in order. -/
theorem Update.filters_built (target : BaseTable) (edits : List Update.Edit) (n : Naming) :
    ((Update.built target edits).run n).1.filters = edits.flatMap Update.Edit.conditions :=
  filters_foldlM Update.Edit.run Update.filters _ Update.Edit.filters_run _ edits _

theorem Delete.filters_built (target : BaseTable) (edits : List Delete.Edit) (n : Naming) :
    ((Delete.built target edits).run n).1.filters = edits.flatMap Delete.Edit.conditions :=
  filters_foldlM Delete.Edit.run Delete.filters _ Delete.Edit.filters_run _ edits _

end SqlCompose
