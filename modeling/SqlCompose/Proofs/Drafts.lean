import SqlCompose.Proofs.Edits
import Mathlib.Data.List.Forall2

/-!
# Drafts

Three kinds of statements name the statements among their tables. For the names, an edit on one of
them is what it does to the tables: it adds a table to the sources or the joins, replaces the namer,
or leaves all three.
-/

namespace SqlCompose

/-! ## Tables -/

/-- What matters for the names of the tables in a statement. -/
structure Tables where
  namer : NamerId
  sources : List TableSource
  joins : List Join

/-- What an edit does to the tables. -/
inductive Effect where
  | source (t : TableSource)
  | join (j : Join)
  | nameFrom (namer : NamerId)
  | none

namespace Effect

def sources : Effect → List TableSource
  | source t => [t]
  | _ => []

def joins : Effect → List Join
  | join j => [j]
  | _ => []

def table? : Effect → Option TableSource
  | source t => some t
  | join j => some j.target
  | _ => Option.none

end Effect

namespace Tables

/-- All tables, those that are joined last. -/
def all (ts : Tables) : List TableSource := ts.sources ++ ts.joins.map Join.target

def apply (ts : Tables) : Effect → StateM Naming Tables
  | .source t => do
    let t ← t.ensureLabel ts.namer
    return { ts with sources := ts.sources ++ [t] }
  | .join j => do
    let j ← j.ensureLabel ts.namer
    return { ts with joins := ts.joins ++ [j] }
  | .nameFrom namer => return { ts with namer := namer }
  | .none => return ts

end Tables

def Select.tables (s : Select) : Tables := ⟨s.namer, s.sources, s.joins⟩

def Update.tables (s : Update) : Tables := ⟨s.namer, s.sources, s.joins⟩

def Delete.tables (s : Delete) : Tables := ⟨s.namer, s.sources, s.joins⟩

namespace Select.Edit

def effect : Edit → Effect
  | .addSource t => .source t
  | .addJoin j => .join j
  | .nameFrom namer => .nameFrom namer
  | _ => .none

theorem tables_run (s : Select) (c : Edit) :
    Select.tables <$> c.run s = s.tables.apply c.effect := by
  cases c with
  | addFilter? p => cases p <;> rfl
  | _ => rfl

end Select.Edit

namespace Update.Edit

def effect : Edit → Effect
  | .addSource t => .source t
  | .addJoin j => .join j
  | .nameFrom namer => .nameFrom namer
  | _ => .none

theorem tables_run (s : Update) (c : Edit) :
    Update.tables <$> c.run s = s.tables.apply c.effect := by
  cases c with
  | assign? column value => cases value <;> rfl
  | addFilter? p => cases p <;> rfl
  | _ => rfl

end Update.Edit

namespace Delete.Edit

def effect : Edit → Effect
  | .addSource t => .source t
  | .addJoin j => .join j
  | .nameFrom namer => .nameFrom namer
  | _ => .none

theorem tables_run (s : Delete) (c : Edit) :
    Delete.tables <$> c.run s = s.tables.apply c.effect := by
  cases c with
  | addFilter? p => cases p <;> rfl
  | _ => rfl

end Delete.Edit

/-! ## Drafts -/

/-- A statement under construction that names the statements among its tables. -/
inductive Draft where
  | select (s : Select)
  | update (s : Update)
  | delete (s : Delete)

namespace Draft

inductive Kind where
  | select
  | update (target : BaseTable)
  | delete (target : BaseTable)

def new : Kind → StateM Naming Draft
  | .select => Draft.select <$> Select.new
  | .update target => Draft.update <$> Update.new target
  | .delete target => Draft.delete <$> Delete.new target

inductive Edit where
  | select (c : Select.Edit)
  | update (c : Update.Edit)
  | delete (c : Delete.Edit)

def Edit.effect : Edit → Effect
  | .select c => c.effect
  | .update c => c.effect
  | .delete c => c.effect

/-- Runs an edit; a draft of another kind has no such edit. -/
def run : Draft → Edit → Option (StateM Naming Draft)
  | .select s, .select c => some (Draft.select <$> c.run s)
  | .update s, .update c => some (Draft.update <$> c.run s)
  | .delete s, .delete c => some (Draft.delete <$> c.run s)
  | _, _ => none

def tables : Draft → Tables
  | .select s => s.tables
  | .update s => s.tables
  | .delete s => s.tables

/-- An edit does to the tables of a draft what its effect says, and nothing else. -/
theorem tables_run {d : Draft} {c : Edit} {m : StateM Naming Draft} (h : d.run c = some m) :
    tables <$> m = d.tables.apply c.effect := by
  cases d <;> cases c <;> simp only [run, Option.some.injEq, reduceCtorEq] at h
  case select.select s c => rw [← h]; exact c.tables_run s
  case update.update s c => rw [← h]; exact c.tables_run s
  case delete.delete s c => rw [← h]; exact c.tables_run s

theorem tables_new (k : Kind) (n : Naming) :
    ((new k).run n).1.tables = ⟨⟨n.namers.length⟩, [], []⟩ ∧
      ((new k).run n).2 = ⟨n.namers ++ [.subqueries]⟩ := by
  cases k <;> exact ⟨rfl, rfl⟩

/-- Every draft has an edit for every effect. -/
theorem exists_edit (d : Draft) (ef : Effect) :
    ∃ c m, c.effect = ef ∧ d.run c = some m := by
  cases d with
  | select s =>
      cases ef with
      | source t => exact ⟨.select (.addSource t), _, rfl, rfl⟩
      | join j => exact ⟨.select (.addJoin j), _, rfl, rfl⟩
      | nameFrom namer => exact ⟨.select (.nameFrom namer), _, rfl, rfl⟩
      | none => exact ⟨.select .asNested, _, rfl, rfl⟩
  | update s =>
      cases ef with
      | source t => exact ⟨.update (.addSource t), _, rfl, rfl⟩
      | join j => exact ⟨.update (.addJoin j), _, rfl, rfl⟩
      | nameFrom namer => exact ⟨.update (.nameFrom namer), _, rfl, rfl⟩
      | none => exact ⟨.update .asNested, _, rfl, rfl⟩
  | delete s =>
      cases ef with
      | source t => exact ⟨.delete (.addSource t), _, rfl, rfl⟩
      | join j => exact ⟨.delete (.addJoin j), _, rfl, rfl⟩
      | nameFrom namer => exact ⟨.delete (.nameFrom namer), _, rfl, rfl⟩
      | none => exact ⟨.delete .asNested, _, rfl, rfl⟩

end Draft

end SqlCompose
