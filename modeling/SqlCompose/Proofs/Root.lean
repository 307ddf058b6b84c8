import SqlCompose.Select
import SqlCompose.Proofs.Positions
import SqlCompose.Proofs.Settings

/-!
# Numbering at the root

Every statement of a tree is reached by a change of settings, and no such change below the root is
seen in the root's text. The settings of the root itself count once: when its neutral text is turned
into that of a dialect.
-/

namespace SqlCompose

/-! ## Statements below the root -/

namespace Query

def settings : Query → Settings
  | .select s => ⟨s.dialect, s.nested⟩
  | .insert s => ⟨s.dialect, s.nested⟩
  | .update s => ⟨s.dialect, s.nested⟩
  | .delete s => ⟨s.dialect, s.nested⟩
  | .setOperation s => ⟨s.dialect, s.nested⟩

theorem settings_reset (r : Change) (q : Query) : (q.reset r).settings = r [] q.settings := by
  cases q with
  | select s => cases s; simp only [reset, Select.reset, settings]
  | insert s => cases s; simp only [reset, Insert.reset, settings]
  | update s => cases s; simp only [reset, Update.reset, settings]
  | delete s => cases s; simp only [reset, Delete.reset, settings]
  | setOperation s => cases s; simp only [reset, SetOperation.reset, settings]

theorem dialect_eq (q : Query) : q.dialect = q.settings.dialect := by cases q <;> rfl

end Query

namespace Node

def reset (r : Change) : Node → Node
  | .field f => .field (f.reset r)
  | .predicate p => .predicate (p.reset r)
  | .source t => .source (t.reset r)
  | .query q => .query (q.reset r)

end Node

section Everywhere

variable (m : Settings)

@[simp] theorem Change.under_everywhere (i : Nat) :
    (Change.everywhere m).under i = .everywhere m := rfl

theorem eq_map_everywhere {α : Type} (f : Change → α → α) (g : Change → List α → List α)
    (hnil : ∀ r, g r [] = [])
    (hcons : ∀ r a as, g r (a :: as) = f (r.under 0) a :: g (r.under 1) as) (as : List α) :
    g (.everywhere m) as = as.map (f (.everywhere m)) := by
  induction as with
  | nil => exact hnil _
  | cons a as ih => rw [hcons, Change.under_everywhere, Change.under_everywhere, ih, List.map_cons]

theorem flatMap_map_reset {α : Type} {f : α → α} {nodes : α → List Node}
    (h : ∀ a, nodes (f a) = (nodes a).map (Node.reset (.everywhere m))) (as : List α) :
    (as.map f).flatMap nodes = (as.flatMap nodes).map (Node.reset (.everywhere m)) := by
  rw [List.flatMap_map, List.map_flatMap]
  exact congrArg (List.flatMap · as) (funext h)

theorem map_field_reset (fs : List Field) :
    (resetFields (.everywhere m) fs).map .field =
      (fs.map .field).map (Node.reset (.everywhere m)) := by
  rw [eq_map_everywhere m Field.reset resetFields (fun _ => by simp only [resetFields])
    (fun _ _ _ => by simp only [resetFields])]
  simp [Node.reset]

theorem map_predicate_reset (ps : List Predicate) :
    (resetPredicates (.everywhere m) ps).map .predicate =
      (ps.map .predicate).map (Node.reset (.everywhere m)) := by
  rw [eq_map_everywhere m Predicate.reset resetPredicates (fun _ => by simp only [resetPredicates])
    (fun _ _ _ => by simp only [resetPredicates])]
  simp [Node.reset]

theorem map_source_reset (ts : List TableSource) :
    (resetSources (.everywhere m) ts).map .source =
      (ts.map .source).map (Node.reset (.everywhere m)) := by
  rw [eq_map_everywhere m TableSource.reset resetSources (fun _ => by simp only [resetSources])
    (fun _ _ _ => by simp only [resetSources])]
  simp [Node.reset]

theorem map_cte_reset (cs : List Cte) :
    (resetCtes (.everywhere m) cs).map Cte.node =
      (cs.map Cte.node).map (Node.reset (.everywhere m)) := by
  rw [eq_map_everywhere m Cte.reset resetCtes (fun _ => by simp only [resetCtes])
    (fun _ _ _ => by simp only [resetCtes])]
  simp only [List.map_map]
  refine List.map_congr_left fun c _ => ?_
  cases c
  simp only [Function.comp_apply, Cte.reset, Cte.node, Node.reset]

theorem flatMap_args_reset (args : List Arg) :
    (resetArgs (.everywhere m) args).flatMap Arg.nodes =
      (args.flatMap Arg.nodes).map (Node.reset (.everywhere m)) := by
  rw [eq_map_everywhere m Arg.reset resetArgs (fun _ => by simp only [resetArgs])
    (fun _ _ _ => by simp only [resetArgs])]
  refine flatMap_map_reset m (fun a => ?_) args
  cases a <;> simp only [Arg.reset, Arg.nodes, Node.reset, List.map_cons, List.map_nil]

theorem operandNodes_reset (os : List (Option Field)) :
    operandNodes (os.map (resetOperand (.everywhere m))) =
      (operandNodes os).map (Node.reset (.everywhere m)) := by
  induction os with
  | nil => rfl
  | cons o os ih =>
      cases o with
      | none => exact ih
      | some f => exact congrArg (Node.field (f.reset (.everywhere m)) :: ·) ih

theorem flatMap_joins_reset (js : List Join) :
    (resetJoins (.everywhere m) js).flatMap Join.nodes =
      (js.flatMap Join.nodes).map (Node.reset (.everywhere m)) := by
  rw [eq_map_everywhere m Join.reset resetJoins (fun _ => by simp only [resetJoins])
    (fun _ _ _ => by simp only [resetJoins])]
  refine flatMap_map_reset m (fun j => ?_) js
  cases j
  simp only [Join.reset, Join.nodes, Change.under_everywhere, map_predicate_reset, List.map_cons,
    Node.reset]

theorem flatMap_assignments_reset (as : List Assignment) :
    (resetAssignments (.everywhere m) as).flatMap Assignment.nodes =
      (as.flatMap Assignment.nodes).map (Node.reset (.everywhere m)) := by
  rw [eq_map_everywhere m Assignment.reset resetAssignments
    (fun _ => by simp only [resetAssignments]) (fun _ _ _ => by simp only [resetAssignments])]
  refine flatMap_map_reset m (fun a => ?_) as
  cases a
  simp only [Assignment.reset, Assignment.nodes, Change.under_everywhere, Node.reset, List.map_cons,
    List.map_nil]

theorem flatMap_tuples_reset (ts : List Tuple) :
    (resetTuples (.everywhere m) ts).flatMap Tuple.nodes =
      (ts.flatMap Tuple.nodes).map (Node.reset (.everywhere m)) := by
  rw [eq_map_everywhere m Tuple.reset resetTuples (fun _ => by simp only [resetTuples])
    (fun _ _ _ => by simp only [resetTuples])]
  refine flatMap_map_reset m (fun t => ?_) ts
  cases t
  simp only [Tuple.reset, Tuple.nodes, map_field_reset]

theorem Distinct.nodes_reset (d : Distinct) :
    (d.reset (.everywhere m)).nodes = d.nodes.map (Node.reset (.everywhere m)) := by
  cases d <;> simp only [Distinct.reset, Distinct.nodes, map_field_reset, List.map_nil]

theorem Conflict.nodes_reset (c : Conflict) :
    (c.reset (.everywhere m)).nodes = c.nodes.map (Node.reset (.everywhere m)) := by
  obtain ⟨target, action⟩ := c
  simp only [Conflict.reset, Conflict.nodes, Change.under_everywhere, List.map_append]
  congr 1
  · cases target <;> simp only [ConflictTarget.reset, ConflictTarget.nodes, Change.under_everywhere,
      map_field_reset, map_predicate_reset, List.map_append, List.map_nil]
  · cases action <;> simp only [ConflictAction.reset, ConflictAction.nodes, Change.under_everywhere,
      flatMap_assignments_reset, map_predicate_reset, List.map_append, List.map_nil]

namespace Node

/-- A change reaches all the nodes below a node. -/
theorem children_reset (n : Node) :
    (n.reset (.everywhere m)).children = n.children.map (reset (.everywhere m)) := by
  cases n with
  | field f =>
      obtain ⟨expr, _, _, _, _⟩ := f
      cases expr <;> simp only [reset, children, Field.reset, Expr.reset, Field.nodes,
        flatMap_args_reset, List.map_nil]
  | predicate p =>
      cases p with
      | unary operand op =>
          simp only [reset, children, Predicate.reset, Predicate.nodes]
          exact operandNodes_reset m [operand]
      | binary lhs op rhs =>
          simp only [reset, children, Predicate.reset, Predicate.nodes, Change.under_everywhere]
          exact operandNodes_reset m [lhs, rhs]
      | ternary operand op low high =>
          simp only [reset, children, Predicate.reset, Predicate.nodes, Change.under_everywhere]
          exact operandNodes_reset m [operand, low, high]
      | _ =>
          simp only [reset, children, Predicate.reset, Predicate.nodes, map_predicate_reset,
            flatMap_args_reset, List.map_cons, List.map_nil]
  | source t =>
      cases t with
      | cte c => cases c; simp only [reset, children, TableSource.reset, Cte.reset,
          TableSource.nodes, List.map_cons, List.map_nil]
      | custom t => cases t; simp only [reset, children, TableSource.reset, CustomTable.reset,
          TableSource.nodes, flatMap_args_reset]
      | _ => simp only [reset, children, TableSource.reset, TableSource.nodes, List.map_cons,
          List.map_nil]
  | query q =>
      cases q with
      | select s =>
          cases s
          simp only [reset, children, Query.reset, Select.reset, Query.nodes,
            Change.under_everywhere, map_cte_reset, Distinct.nodes_reset, map_field_reset,
            map_source_reset, flatMap_joins_reset, map_predicate_reset, List.map_append]
      | insert s =>
          obtain ⟨_, _, _, _, source, conflict, _, _, _, _⟩ := s
          cases source <;> cases conflict <;> simp only [reset, children, Query.reset, Insert.reset,
            Query.nodes, Change.under_everywhere, map_cte_reset, map_field_reset,
            flatMap_tuples_reset, InsertSource.reset, InsertSource.nodes, resetConflict,
            Conflict.nodes_reset, Option.toList, List.flatMap_cons, List.flatMap_nil,
            List.map_append, List.map_cons, List.map_nil]
      | update s =>
          cases s
          simp only [reset, children, Query.reset, Update.reset, Query.nodes,
            Change.under_everywhere, map_cte_reset, flatMap_assignments_reset, map_field_reset,
            map_source_reset, flatMap_joins_reset, map_predicate_reset, List.map_append]
      | delete s =>
          cases s
          simp only [reset, children, Query.reset, Delete.reset, Query.nodes,
            Change.under_everywhere, map_cte_reset, map_field_reset, map_source_reset,
            flatMap_joins_reset, map_predicate_reset, List.map_append]
      | setOperation s =>
          obtain ⟨_, arms, _, _, _, _, _, _⟩ := s
          have harms : (resetArms (.everywhere m) arms).map (fun a => Node.query a.query) =
              (arms.map fun a => Node.query a.query).map (reset (.everywhere m)) := by
            rw [eq_map_everywhere m Arm.reset resetArms (fun _ => by simp only [resetArms])
              (fun _ _ _ => by simp only [resetArms])]
            simp only [List.map_map]
            refine List.map_congr_left fun a _ => ?_
            cases a
            simp only [Function.comp_apply, Arm.reset, reset]
          simp only [reset, children, Query.reset, SetOperation.reset, Query.nodes,
            Change.under_everywhere, harms, map_field_reset, List.map_append, List.map_cons]

theorem exists_of_within_reset {n k : Node} (h : n.Within k) {l : Node}
    (hk : k = l.reset (.everywhere m)) : ∃ n' : Node, n = n'.reset (.everywhere m) := by
  induction h generalizing l with
  | refl => exact ⟨l, hk⟩
  | child _ hc ih =>
      rw [hk, children_reset] at hc
      obtain ⟨c, _, hc⟩ := List.mem_map.mp hc
      exact ih hc.symm

end Node

end Everywhere

namespace Query

/-- No statement of a tree keeps its settings when all are to be the same. -/
theorem settings_of_within_reset {m : Settings} {q s : Query}
    (h : (Node.query s).Within (.query (q.reset (.everywhere m)))) : s.settings = m := by
  obtain ⟨n, hn⟩ := Node.exists_of_within_reset m h (l := .query q) rfl
  cases n with
  | query s' =>
      obtain rfl := Node.query.inj hn
      rw [settings_reset]
      rfl
  | _ => cases hn

/-! ## The root -/

def withSettings (m : Settings) : Query → Query
  | .select s => .select { s with dialect := m.dialect, nested := m.nested }
  | .insert s => .insert { s with dialect := m.dialect, nested := m.nested }
  | .update s => .update { s with dialect := m.dialect, nested := m.nested }
  | .delete s => .delete { s with dialect := m.dialect, nested := m.nested }
  | .setOperation s => .setOperation { s with dialect := m.dialect, nested := m.nested }

theorem withSettings_settings (q : Query) : q.withSettings q.settings = q := by
  cases q with
  | select s => cases s; rfl
  | insert s => cases s; rfl
  | update s => cases s; rfl
  | delete s => cases s; rfl
  | setOperation s => cases s; rfl

theorem settings_withSettings (m : Settings) (q : Query) : (q.withSettings m).settings = m := by
  cases q <;> rfl

theorem body_withSettings (m : Settings) (q : Query) : (q.withSettings m).body = q.body := by
  cases q with
  | select s => cases s; simp only [body, withSettings, Query.doc, Select.doc]
  | insert s => cases s; simp only [body, withSettings, Query.doc, Insert.doc]
  | update s => cases s; simp only [body, withSettings, Query.doc, Update.doc]
  | delete s => cases s; simp only [body, withSettings, Query.doc, Delete.doc]
  | setOperation s => cases s; simp only [body, withSettings, Query.doc, SetOperation.doc]

theorem body_reset (r : Change) (q : Query) : (q.reset r).body = q.body := by
  rw [body, doc_reset, body]

theorem build_reset_belowRoot (r : Change) (q : Query) : (q.reset r.belowRoot).build = q.build := by
  rw [build, build, body_reset, dialect_eq, settings_reset, dialect_eq]
  rfl

/-- Placeholders are numbered once, at the root. The settings of the statements below the root
change neither the neutral text nor the built one, and those of the root only say how each marker of
one row of characters and markers is spelled. -/
theorem numbered_once_at_root (q : Query) :
    (∀ r : Change, (q.reset r).body = q.body ∧ (q.reset r.belowRoot).build = q.build) ∧
    (∀ m s, (Node.query s).Within (.query (q.reset (.everywhere m))) → s.settings = m) ∧
    (∃ signs : List Dialect.Sign,
      signs.filterMap Dialect.Sign.number? = List.range' 1 q.body.slotCount ∧
      ∀ m, (q.withSettings m).body = q.body ∧ (q.withSettings m).build.args = q.build.args ∧
        (q.withSettings m).build.sql.toList = signs.flatMap (Dialect.Sign.chars m.dialect)) ∧
    q.withSettings q.settings = q ∧
    (q.nested = true → q.render = q.body) ∧
    (q.nested = false → q.render = ⟨q.build.sql, q.build.args⟩) := by
  refine ⟨fun r => ⟨body_reset r q, build_reset_belowRoot r q⟩,
    fun m s h => settings_of_within_reset h, ?_, withSettings_settings q, fun h => ?_, fun h => ?_⟩
  · refine ⟨Dialect.number 0 (Neutral.marks q.body.sql.toList), ?_, fun m => ?_⟩
    · exact Dialect.filterMap_number 0 _
    · have hbuild : (q.withSettings m).build = m.dialect.renumber q.body := by
        rw [build, body_withSettings, dialect_eq, settings_withSettings]
      rw [hbuild]
      exact ⟨body_withSettings m q, rfl, Dialect.toList_renumber _ _⟩
  · rw [render, if_pos h]
  · rw [render, if_neg (by simp [h])]

/-- A statement in a table expression keeps its slots, whatever its own dialect is. -/
example :
    (Query.select
      { (Select.new.run ⟨[]⟩).1 with
        sources := [.custom ⟨"lateral (?)", [.query (.delete
          { ((Delete.new (.ofName "users")).run ⟨[]⟩).1 with
            filters := [(Field.column "id" .number).eq (.value (.bigInt 7))]
            dialect := .sqlite })], none⟩] }).build.sql =
      "SELECT * FROM lateral (DELETE FROM users WHERE id = $1)" := by rfl

end Query

end SqlCompose
