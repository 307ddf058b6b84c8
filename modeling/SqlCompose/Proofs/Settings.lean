import SqlCompose.Dialect
import SqlCompose.Proofs.Layout

/-!
# Settings of the statements in a tree

Every statement of a tree has settings: the dialect it would be executed in, and whether it is
marked as part of another. They can be changed for each statement by its place. The layout of a tree
does not read them, wherever a statement stands.
-/

namespace SqlCompose

structure Settings where
  dialect : Dialect
  nested : Bool

/-- New settings for the statements of a tree. They may depend on the settings that a statement has
and on its place: the turns to take on the way down from the root. -/
abbrev Change := List Nat → Settings → Settings

namespace Change

/-- The change below a turn. -/
def under (r : Change) (i : Nat) : Change := fun place => r (i :: place)

/-- A change of all statements but the root. -/
def belowRoot (r : Change) : Change
  | [] => id
  | i :: place => r (i :: place)

/-- The same settings everywhere. -/
def everywhere (m : Settings) : Change := fun _ _ => m

end Change

/-! ## Changed trees -/

mutual

def Expr.reset (r : Change) : Expr → Expr
  | .literal v => .literal v
  | .column qualifier name => .column qualifier name
  | .computed template args => .computed template (resetArgs r args)
  | .null => .null

def Field.reset (r : Change) : Field → Field
  | ⟨expr, type, label, order, nulls⟩ => ⟨expr.reset r, type, label, order, nulls⟩

def resetFields (r : Change) : List Field → List Field
  | [] => []
  | f :: rest => f.reset (r.under 0) :: resetFields (r.under 1) rest

def resetOperand (r : Change) : Option Field → Option Field
  | some f => some (f.reset r)
  | none => none

def Arg.reset (r : Change) : Arg → Arg
  | .null => .null
  | .value v => .value v
  | .list vs => .list vs
  | .field f => .field (f.reset r)
  | .predicate p => .predicate (p.reset r)
  | .table t => .table (t.reset r)
  | .query q => .query (q.reset r)

def resetArgs (r : Change) : List Arg → List Arg
  | [] => []
  | a :: rest => a.reset (r.under 0) :: resetArgs (r.under 1) rest

def Predicate.reset (r : Change) : Predicate → Predicate
  | .unary operand op => .unary (resetOperand r operand) op
  | .binary lhs op rhs => .binary (resetOperand (r.under 0) lhs) op (resetOperand (r.under 1) rhs)
  | .ternary operand op low high =>
    .ternary (resetOperand (r.under 0) operand) op (resetOperand (r.under 1) low)
      (resetOperand (r.under 2) high)
  | .group connective members topLevel => .group connective (resetPredicates r members) topLevel
  | .negation p => .negation (p.reset r)
  | .existence q negated => .existence (q.reset r) negated
  | .custom template args => .custom template (resetArgs r args)

def resetPredicates (r : Change) : List Predicate → List Predicate
  | [] => []
  | p :: rest => p.reset (r.under 0) :: resetPredicates (r.under 1) rest

def CustomTable.reset (r : Change) : CustomTable → CustomTable
  | ⟨template, args, label⟩ => ⟨template, resetArgs r args, label⟩

def Cte.reset (r : Change) : Cte → Cte
  | ⟨name, columns, query, recursive, materialized⟩ =>
    ⟨name, columns, query.reset r, recursive, materialized⟩

def resetCtes (r : Change) : List Cte → List Cte
  | [] => []
  | c :: rest => c.reset (r.under 0) :: resetCtes (r.under 1) rest

def TableSource.reset (r : Change) : TableSource → TableSource
  | .base t => .base t
  | .cte c => .cte (c.reset r)
  | .reference c => .reference c
  | .query q => .query (q.reset r)
  | .custom t => .custom (t.reset r)

def resetSources (r : Change) : List TableSource → List TableSource
  | [] => []
  | t :: rest => t.reset (r.under 0) :: resetSources (r.under 1) rest

def Join.reset (r : Change) : Join → Join
  | ⟨kind, target, conditions, lateral⟩ =>
    ⟨kind, target.reset (r.under 0), resetPredicates (r.under 1) conditions, lateral⟩

def resetJoins (r : Change) : List Join → List Join
  | [] => []
  | j :: rest => j.reset (r.under 0) :: resetJoins (r.under 1) rest

def Distinct.reset (r : Change) : Distinct → Distinct
  | .off => .off
  | .rows => .rows
  | .byFields fields => .byFields (resetFields r fields)

def Select.reset (r : Change) : Select → Select
  | ⟨ctes, distinct, projections, sources, joins, filters, groupBy, having, orderBy, limit, offset,
      lock, label, namer, nested, dialect⟩ =>
    ⟨resetCtes (r.under 0) ctes, distinct.reset (r.under 1), resetFields (r.under 2) projections,
      resetSources (r.under 3) sources, resetJoins (r.under 4) joins,
      resetPredicates (r.under 5) filters, resetFields (r.under 6) groupBy,
      resetPredicates (r.under 7) having, resetFields (r.under 8) orderBy, limit, offset, lock,
      label, namer, (r [] ⟨dialect, nested⟩).nested, (r [] ⟨dialect, nested⟩).dialect⟩

def Assignment.reset (r : Change) : Assignment → Assignment
  | ⟨column, value⟩ => ⟨column.reset (r.under 0), value.reset (r.under 1)⟩

def resetAssignments (r : Change) : List Assignment → List Assignment
  | [] => []
  | a :: rest => a.reset (r.under 0) :: resetAssignments (r.under 1) rest

def ConflictTarget.reset (r : Change) : ConflictTarget → ConflictTarget
  | .any => .any
  | .columns fields filters =>
    .columns (resetFields (r.under 0) fields) (resetPredicates (r.under 1) filters)
  | .constraint name filters => .constraint name (resetPredicates r filters)

def ConflictAction.reset (r : Change) : ConflictAction → ConflictAction
  | .nothing => .nothing
  | .update assignments filters =>
    .update (resetAssignments (r.under 0) assignments) (resetPredicates (r.under 1) filters)

def Conflict.reset (r : Change) : Conflict → Conflict
  | ⟨target, action⟩ => ⟨target.reset (r.under 0), action.reset (r.under 1)⟩

def resetConflict (r : Change) : Option Conflict → Option Conflict
  | some c => some (c.reset r)
  | none => none

def Tuple.reset (r : Change) : Tuple → Tuple
  | ⟨values⟩ => ⟨resetFields r values⟩

def resetTuples (r : Change) : List Tuple → List Tuple
  | [] => []
  | t :: rest => t.reset (r.under 0) :: resetTuples (r.under 1) rest

def InsertSource.reset (r : Change) : InsertSource → InsertSource
  | .rows => .rows
  | .query q => .query (q.reset r)

def Insert.reset (r : Change) : Insert → Insert
  | ⟨ctes, target, columns, rows, source, conflict, returning, label, nested, dialect⟩ =>
    ⟨resetCtes (r.under 0) ctes, target, resetFields (r.under 1) columns,
      resetTuples (r.under 2) rows, source.reset (r.under 3), resetConflict (r.under 4) conflict,
      resetFields (r.under 5) returning, label,
      (r [] ⟨dialect, nested⟩).nested, (r [] ⟨dialect, nested⟩).dialect⟩

def Update.reset (r : Change) : Update → Update
  | ⟨ctes, target, assignments, sources, joins, filters, returning, label, namer, nested,
      dialect⟩ =>
    ⟨resetCtes (r.under 0) ctes, target, resetAssignments (r.under 1) assignments,
      resetSources (r.under 2) sources, resetJoins (r.under 3) joins,
      resetPredicates (r.under 4) filters, resetFields (r.under 5) returning, label, namer,
      (r [] ⟨dialect, nested⟩).nested, (r [] ⟨dialect, nested⟩).dialect⟩

def Delete.reset (r : Change) : Delete → Delete
  | ⟨ctes, target, sources, joins, filters, returning, label, namer, nested, dialect⟩ =>
    ⟨resetCtes (r.under 0) ctes, target, resetSources (r.under 1) sources,
      resetJoins (r.under 2) joins, resetPredicates (r.under 3) filters,
      resetFields (r.under 4) returning, label, namer,
      (r [] ⟨dialect, nested⟩).nested, (r [] ⟨dialect, nested⟩).dialect⟩

def Arm.reset (r : Change) : Arm → Arm
  | ⟨operator, query⟩ => ⟨operator, query.reset r⟩

def resetArms (r : Change) : List Arm → List Arm
  | [] => []
  | a :: rest => a.reset (r.under 0) :: resetArms (r.under 1) rest

def SetOperation.reset (r : Change) : SetOperation → SetOperation
  | ⟨head, arms, orderBy, limit, offset, label, nested, dialect⟩ =>
    ⟨head.reset (r.under 0), resetArms (r.under 1) arms, resetFields (r.under 2) orderBy, limit,
      offset, label, (r [] ⟨dialect, nested⟩).nested, (r [] ⟨dialect, nested⟩).dialect⟩

/-- The tree with changed settings of its statements. -/
def Query.reset (r : Change) : Query → Query
  | .select s => .select (s.reset r)
  | .insert s => .insert (s.reset r)
  | .update s => .update (s.reset r)
  | .delete s => .delete (s.reset r)
  | .setOperation s => .setOperation (s.reset r)

end

/-! ## What the layout reads of a statement -/

@[simp] theorem Query.label_reset (r : Change) (q : Query) : (q.reset r).label = q.label := by
  cases q with
  | select s => cases s; simp only [Query.reset, Select.reset, Query.label]
  | insert s => cases s; simp only [Query.reset, Insert.reset, Query.label]
  | update s => cases s; simp only [Query.reset, Update.reset, Query.label]
  | delete s => cases s; simp only [Query.reset, Delete.reset, Query.label]
  | setOperation s => cases s; simp only [Query.reset, SetOperation.reset, Query.label]

@[simp] theorem TableSource.label_reset (r : Change) (t : TableSource) :
    (t.reset r).label = t.label := by
  cases t with
  | base t | reference c => simp only [TableSource.reset]
  | cte c => simp only [TableSource.reset, TableSource.label]
  | query q => simp only [TableSource.reset, TableSource.label, Query.label_reset]
  | custom t =>
      cases t
      simp only [TableSource.reset, CustomTable.reset, TableSource.label, CustomTable.visibleLabel]

theorem any_recursive_resetCtes (r : Change) (cs : List Cte) :
    (resetCtes r cs).any (·.recursive) = cs.any (·.recursive) := by
  induction cs generalizing r with
  | nil => simp only [resetCtes]
  | cons c cs ih => cases c; simp only [resetCtes, Cte.reset, List.any_cons, ih]

theorem isEmpty_resetTuples (r : Change) (ts : List Tuple) :
    (resetTuples r ts).isEmpty = ts.isEmpty := by
  cases ts <;> simp only [resetTuples, List.isEmpty_nil, List.isEmpty_cons]

theorem isLoneGroup_resetPredicates (r : Change) (ps : List Predicate) :
    isLoneGroup (resetPredicates r ps) = isLoneGroup ps := by
  match ps with
  | [] => simp only [resetPredicates]
  | [p] => cases p <;> simp only [resetPredicates, Predicate.reset, isLoneGroup]
  | p :: q :: ps =>
      simp only [resetPredicates]
      cases p <;> rfl

/-! ## Layouts of changed trees -/

mutual

theorem Expr.doc_reset (r : Change) (e : Exclude) : (x : Expr) → (x.reset r).doc e = x.doc e
  | .literal _ => by simp only [Expr.reset]
  | .column _ _ => by simp only [Expr.reset]
  | .computed _ args => by simp only [Expr.reset, Expr.doc, argDocs_reset r e args]
  | .null => by simp only [Expr.reset]

theorem Field.doc_reset (r : Change) (e : Exclude) : (f : Field) → (f.reset r).doc e = f.doc e
  | ⟨expr, _, _, _, _⟩ => by simp only [Field.reset, Field.doc, Expr.doc_reset r e expr]

theorem Field.projectionDoc_reset (r : Change) (e : Exclude) :
    (f : Field) → (f.reset r).projectionDoc e = f.projectionDoc e
  | ⟨expr, _, _, _, _⟩ => by simp only [Field.reset, Field.projectionDoc, Expr.doc_reset r e expr]

theorem fieldDocs_reset (r : Change) (e : Exclude) :
    (fs : List Field) → fieldDocs e (resetFields r fs) = fieldDocs e fs
  | [] => by simp only [resetFields]
  | f :: fs => by
      simp only [resetFields, fieldDocs, Field.doc_reset (r.under 0) e f,
        fieldDocs_reset (r.under 1) e fs]

theorem projectionDocs_reset (r : Change) :
    (fs : List Field) → projectionDocs (resetFields r fs) = projectionDocs fs
  | [] => by simp only [resetFields]
  | f :: fs => by
      simp only [resetFields, projectionDocs, Field.projectionDoc_reset (r.under 0) .none f,
        projectionDocs_reset (r.under 1) fs]

theorem valueDocs_reset (r : Change) :
    (fs : List Field) → valueDocs (resetFields r fs) = valueDocs fs
  | [] => by simp only [resetFields]
  | f :: fs => by
      simp only [resetFields, valueDocs, Field.doc_reset (r.under 0) .none f,
        valueDocs_reset (r.under 1) fs]

theorem operandDoc_reset (r : Change) (e : Exclude) :
    (o : Option Field) → operandDoc e (resetOperand r o) = operandDoc e o
  | some f => by simp only [resetOperand, operandDoc, Field.doc_reset r e f]
  | none => by simp only [resetOperand]

theorem Arg.doc?_reset (r : Change) (e : Exclude) : (a : Arg) → (a.reset r).doc? e = a.doc? e
  | .null => by simp only [Arg.reset]
  | .value _ => by simp only [Arg.reset]
  | .list _ => by simp only [Arg.reset]
  | .field f => by simp only [Arg.reset, Arg.doc?, Field.doc_reset r e f]
  | .predicate p => by simp only [Arg.reset, Arg.doc?, Predicate.doc_reset r e false p]
  | .table t => by simp only [Arg.reset, Arg.doc?, TableSource.doc_reset r t]
  | .query q => by simp only [Arg.reset, Arg.doc?, Query.doc_reset r q]

theorem argDocs_reset (r : Change) (e : Exclude) :
    (args : List Arg) → argDocs e (resetArgs r args) = argDocs e args
  | [] => by simp only [resetArgs]
  | a :: args => by
      simp only [resetArgs, argDocs, Arg.doc?_reset (r.under 0) e a,
        argDocs_reset (r.under 1) e args]

theorem Predicate.doc_reset (r : Change) (e : Exclude) (w : Bool) :
    (p : Predicate) → (p.reset r).doc e w = p.doc e w
  | .unary operand _ => by
      simp only [Predicate.reset, Predicate.doc, operandDoc_reset r e operand]
  | .binary lhs _ rhs => by
      simp only [Predicate.reset, Predicate.doc, operandDoc_reset (r.under 0) e lhs,
        operandDoc_reset (r.under 1) e rhs]
  | .ternary operand _ low high => by
      simp only [Predicate.reset, Predicate.doc, operandDoc_reset (r.under 0) e operand,
        operandDoc_reset (r.under 1) e low, operandDoc_reset (r.under 2) e high]
  | .group c members t => by
      simp only [Predicate.reset, Predicate.doc, groupDoc_reset r e c (w || t) members]
  | .negation p => by simp only [Predicate.reset, Predicate.doc, Predicate.doc_reset r e true p]
  | .existence q _ => by simp only [Predicate.reset, Predicate.doc, Query.doc_reset r q]
  | .custom _ args => by simp only [Predicate.reset, Predicate.doc, argDocs_reset r e args]

theorem groupDoc_reset (r : Change) (e : Exclude) (c : Connective) (w : Bool) :
    (ps : List Predicate) → groupDoc e c w (resetPredicates r ps) = groupDoc e c w ps
  | [] => by simp only [resetPredicates]
  | p :: ps => by
      have hp := Predicate.doc_reset (r.under 0) e false p
      have hps := predicateDocs_reset (r.under 1) e ps
      simp only [predicateDocs_eq] at hps
      cases hl : isLoneGroup (p :: ps) with
      | true =>
          -- the lone inner group is laid out in the place of the outer one, as it is here
          cases ps with
          | nil =>
              cases p with
              | group i members _ =>
                  simp only [resetPredicates, Predicate.reset, groupDoc_lone,
                    groupDoc_reset (r.under 0) e i w members]
              | _ => simp [isLoneGroup] at hl
          | cons q ps => simp [isLoneGroup] at hl
      | false =>
          have hr : isLoneGroup (resetPredicates r (p :: ps)) = false := by
            rw [isLoneGroup_resetPredicates, hl]
          rw [groupDoc_of_not_lone hl (by simp),
            groupDoc_of_not_lone hr (by simp [resetPredicates])]
          simp only [resetPredicates, List.map_cons, hp, hps]

theorem predicateDocs_reset (r : Change) (e : Exclude) :
    (ps : List Predicate) → predicateDocs e (resetPredicates r ps) = predicateDocs e ps
  | [] => by simp only [resetPredicates]
  | p :: ps => by
      simp only [resetPredicates, predicateDocs, Predicate.doc_reset (r.under 0) e false p,
        predicateDocs_reset (r.under 1) e ps]

theorem CustomTable.doc_reset (r : Change) : (t : CustomTable) → (t.reset r).doc = t.doc
  | ⟨_, args, _⟩ => by
      simp only [CustomTable.reset, CustomTable.doc, argDocs_reset r .none args]

theorem Cte.doc_reset (r : Change) : (c : Cte) → (c.reset r).doc = c.doc
  | ⟨_, _, query, _, _⟩ => by simp only [Cte.reset, Cte.doc, Query.doc_reset r query]

theorem cteDocs_reset (r : Change) : (cs : List Cte) → cteDocs (resetCtes r cs) = cteDocs cs
  | [] => by simp only [resetCtes]
  | c :: cs => by
      simp only [resetCtes, cteDocs, Cte.doc_reset (r.under 0) c, cteDocs_reset (r.under 1) cs]

theorem TableSource.doc_reset (r : Change) : (t : TableSource) → (t.reset r).doc = t.doc
  | .base _ => by simp only [TableSource.reset]
  | .cte ⟨_, _, _, _, _⟩ => by simp only [TableSource.reset, Cte.reset, TableSource.doc]
  | .reference _ => by simp only [TableSource.reset]
  | .query q => by simp only [TableSource.reset, TableSource.doc, Query.doc_reset r q]
  | .custom t => by simp only [TableSource.reset, TableSource.doc, CustomTable.doc_reset r t]

theorem sourceDocs_reset (r : Change) :
    (ts : List TableSource) → sourceDocs (resetSources r ts) = sourceDocs ts
  | [] => by simp only [resetSources]
  | t :: ts => by
      simp only [resetSources, sourceDocs, TableSource.doc_reset (r.under 0) t,
        TableSource.label_reset, sourceDocs_reset (r.under 1) ts]

theorem Join.doc_reset (r : Change) : (j : Join) → (j.reset r).doc = j.doc
  | ⟨_, target, conditions, _⟩ => by
      simp only [Join.reset, Join.doc, TableSource.doc_reset (r.under 0) target,
        TableSource.label_reset, groupDoc_reset (r.under 1) .none .and true conditions]

theorem joinDocs_reset (r : Change) :
    (js : List Join) → joinDocs (resetJoins r js) = joinDocs js
  | [] => by simp only [resetJoins]
  | j :: js => by
      simp only [resetJoins, joinDocs, Join.doc_reset (r.under 0) j, joinDocs_reset (r.under 1) js]

theorem Distinct.doc_reset (r : Change) : (d : Distinct) → (d.reset r).doc = d.doc
  | .off => by simp only [Distinct.reset]
  | .rows => by simp only [Distinct.reset]
  | .byFields fields => by
      simp only [Distinct.reset, Distinct.doc, fieldDocs_reset r .none fields]

theorem Select.doc_reset (r : Change) : (s : Select) → (s.reset r).doc = s.doc
  | ⟨ctes, distinct, projections, sources, joins, filters, groupBy, having, orderBy, _, _, _, _, _,
      _, _⟩ => by
      simp only [Select.reset, Select.doc, withDoc, any_recursive_resetCtes,
        cteDocs_reset (r.under 0) ctes, Distinct.doc_reset (r.under 1) distinct,
        projectionDocs_reset (r.under 2) projections, sourceDocs_reset (r.under 3) sources,
        joinDocs_reset (r.under 4) joins, groupDoc_reset (r.under 5) .none .and true filters,
        fieldDocs_reset (r.under 6) .none groupBy,
        groupDoc_reset (r.under 7) .none .and true having,
        fieldDocs_reset (r.under 8) .none orderBy]

theorem Assignment.doc_reset (r : Change) (e : Exclude) :
    (a : Assignment) → (a.reset r).doc e = a.doc e
  | ⟨column, value⟩ => by
      simp only [Assignment.reset, Assignment.doc, Field.doc_reset (r.under 0) e column,
        Field.doc_reset (r.under 1) .none value]

theorem assignmentDocs_reset (r : Change) (e : Exclude) :
    (as : List Assignment) → assignmentDocs e (resetAssignments r as) = assignmentDocs e as
  | [] => by simp only [resetAssignments]
  | a :: as => by
      simp only [resetAssignments, assignmentDocs, Assignment.doc_reset (r.under 0) e a,
        assignmentDocs_reset (r.under 1) e as]

theorem ConflictTarget.doc_reset (r : Change) (e : Exclude) :
    (t : ConflictTarget) → (t.reset r).doc e = t.doc e
  | .any => by simp only [ConflictTarget.reset]
  | .columns fields filters => by
      simp only [ConflictTarget.reset, ConflictTarget.doc, fieldDocs_reset (r.under 0) e fields,
        groupDoc_reset (r.under 1) e .and true filters]
  | .constraint _ _ => by simp only [ConflictTarget.reset, ConflictTarget.doc]

theorem ConflictAction.doc_reset (r : Change) (e : Exclude) :
    (a : ConflictAction) → (a.reset r).doc e = a.doc e
  | .nothing => by simp only [ConflictAction.reset]
  | .update [] _ => by simp only [ConflictAction.reset, resetAssignments, ConflictAction.doc]
  | .update (a :: as) filters => by
      simp only [ConflictAction.reset, resetAssignments, ConflictAction.doc,
        Assignment.doc_reset ((r.under 0).under 0) e a,
        assignmentDocs_reset ((r.under 0).under 1) e as,
        groupDoc_reset (r.under 1) .none .and true filters]

theorem Conflict.doc_reset (r : Change) (e : Exclude) :
    (c : Conflict) → (c.reset r).doc e = c.doc e
  | ⟨target, action⟩ => by
      simp only [Conflict.reset, Conflict.doc, ConflictTarget.doc_reset (r.under 0) e target,
        ConflictAction.doc_reset (r.under 1) e action]

theorem conflictDoc_reset (r : Change) (e : Exclude) :
    (c : Option Conflict) → conflictDoc e (resetConflict r c) = conflictDoc e c
  | some c => by simp only [resetConflict, conflictDoc, Conflict.doc_reset r e c]
  | none => by simp only [resetConflict]

theorem Tuple.doc_reset (r : Change) : (t : Tuple) → (t.reset r).doc = t.doc
  | ⟨values⟩ => by simp only [Tuple.reset, Tuple.doc, valueDocs_reset r values]

theorem tupleDocs_reset (r : Change) :
    (ts : List Tuple) → tupleDocs (resetTuples r ts) = tupleDocs ts
  | [] => by simp only [resetTuples]
  | t :: ts => by
      simp only [resetTuples, tupleDocs, Tuple.doc_reset (r.under 0) t,
        tupleDocs_reset (r.under 1) ts]

theorem InsertSource.doc_reset (r : Change) (rows : Doc) :
    (s : InsertSource) → (s.reset r).doc rows = s.doc rows
  | .rows => by simp only [InsertSource.reset]
  | .query q => by simp only [InsertSource.reset, InsertSource.doc, Query.doc_reset r q]

theorem Insert.doc_reset (r : Change) : (s : Insert) → (s.reset r).doc = s.doc
  | ⟨ctes, target, columns, rows, source, conflict, returning, _, _, _⟩ => by
      simp only [Insert.reset, Insert.doc, withDoc, any_recursive_resetCtes,
        cteDocs_reset (r.under 0) ctes, fieldDocs_reset (r.under 1) ⟨[target.qualifier]⟩ columns,
        isEmpty_resetTuples, tupleDocs_reset (r.under 2) rows,
        InsertSource.doc_reset (r.under 3) _ source,
        conflictDoc_reset (r.under 4) ⟨[target.qualifier]⟩ conflict,
        projectionDocs_reset (r.under 5) returning]

theorem Update.doc_reset (r : Change) : (s : Update) → (s.reset r).doc = s.doc
  | ⟨ctes, target, assignments, sources, joins, filters, returning, _, _, _, _⟩ => by
      simp only [Update.reset, Update.doc, withDoc, any_recursive_resetCtes,
        cteDocs_reset (r.under 0) ctes,
        assignmentDocs_reset (r.under 1) ⟨[target.qualifier]⟩ assignments,
        sourceDocs_reset (r.under 2) sources, joinDocs_reset (r.under 3) joins,
        groupDoc_reset (r.under 4) .none .and true filters,
        projectionDocs_reset (r.under 5) returning]

theorem Delete.doc_reset (r : Change) : (s : Delete) → (s.reset r).doc = s.doc
  | ⟨ctes, _, sources, joins, filters, returning, _, _, _, _⟩ => by
      simp only [Delete.reset, Delete.doc, withDoc, any_recursive_resetCtes,
        cteDocs_reset (r.under 0) ctes, sourceDocs_reset (r.under 1) sources,
        joinDocs_reset (r.under 2) joins, groupDoc_reset (r.under 3) .none .and true filters,
        projectionDocs_reset (r.under 4) returning]

theorem Arm.doc_reset (r : Change) : (a : Arm) → (a.reset r).doc = a.doc
  | ⟨_, query⟩ => by simp only [Arm.reset, Arm.doc, Query.doc_reset r query]

theorem armDocs_reset (r : Change) : (as : List Arm) → armDocs (resetArms r as) = armDocs as
  | [] => by simp only [resetArms]
  | a :: as => by
      simp only [resetArms, armDocs, Arm.doc_reset (r.under 0) a, armDocs_reset (r.under 1) as]

theorem SetOperation.doc_reset (r : Change) : (s : SetOperation) → (s.reset r).doc = s.doc
  | ⟨head, arms, orderBy, _, _, _, _, _⟩ => by
      simp only [SetOperation.reset, SetOperation.doc, Query.doc_reset (r.under 0) head,
        armDocs_reset (r.under 1) arms, fieldDocs_reset (r.under 2) .none orderBy]

/-- The layout of a tree does not read the settings of its statements. -/
theorem Query.doc_reset (r : Change) : (q : Query) → (q.reset r).doc = q.doc
  | .select s => by simp only [Query.reset, Query.doc, Select.doc_reset r s]
  | .insert s => by simp only [Query.reset, Query.doc, Insert.doc_reset r s]
  | .update s => by simp only [Query.reset, Query.doc, Update.doc_reset r s]
  | .delete s => by simp only [Query.reset, Query.doc, Delete.doc_reset r s]
  | .setOperation s => by simp only [Query.reset, Query.doc, SetOperation.doc_reset r s]

end

end SqlCompose
