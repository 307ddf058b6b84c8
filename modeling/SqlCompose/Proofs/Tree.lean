import SqlCompose.Layout

/-!
# Induction on statement trees

The types of a statement tree refer to one another. Four of them are its nodes: fields, predicates,
tables and statements. Every other part only holds nodes, so the nodes directly below a node are a
list, and a property that each node inherits from those holds of every node.
-/

namespace SqlCompose

/-- A part of a statement tree that is laid out on its own. -/
inductive Node where
  | field (f : Field)
  | predicate (p : Predicate)
  | source (t : TableSource)
  | query (q : Query)

/-! ## Nodes below a node -/

/-- The node that fills a slot, if it is not just values. -/
def Arg.nodes : Arg → List Node
  | .null | .value _ | .list _ => []
  | .field f => [.field f]
  | .predicate p => [.predicate p]
  | .table t => [.source t]
  | .query q => [.query q]

def Field.nodes (f : Field) : List Node :=
  match f.expr with
  | .computed _ args => args.flatMap Arg.nodes
  | _ => []

def operandNodes (operands : List (Option Field)) : List Node :=
  (operands.filterMap id).map .field

def Predicate.nodes : Predicate → List Node
  | .unary operand _ => operandNodes [operand]
  | .binary lhs _ rhs => operandNodes [lhs, rhs]
  | .ternary operand _ low high => operandNodes [operand, low, high]
  | .group _ members _ => members.map .predicate
  | .negation p => [.predicate p]
  | .existence q _ => [.query q]
  | .custom _ args => args.flatMap Arg.nodes

def TableSource.nodes : TableSource → List Node
  | .base _ | .reference _ => []
  | .cte c => [.query c.query]
  | .query q => [.query q]
  | .custom t => t.args.flatMap Arg.nodes

def Cte.node (c : Cte) : Node := .query c.query

def Join.nodes (j : Join) : List Node := .source j.target :: j.conditions.map .predicate

def Distinct.nodes : Distinct → List Node
  | .off | .rows => []
  | .byFields fields => fields.map .field

def Assignment.nodes (a : Assignment) : List Node := [.field a.column, .field a.value]

def ConflictTarget.nodes : ConflictTarget → List Node
  | .any => []
  | .columns fields filters => fields.map .field ++ filters.map .predicate
  | .constraint _ filters => filters.map .predicate

def ConflictAction.nodes : ConflictAction → List Node
  | .nothing => []
  | .update assignments filters =>
    assignments.flatMap Assignment.nodes ++ filters.map .predicate

def Conflict.nodes (c : Conflict) : List Node := c.target.nodes ++ c.action.nodes

def Tuple.nodes (r : Tuple) : List Node := r.values.map .field

def InsertSource.nodes : InsertSource → List Node
  | .rows => []
  | .query q => [.query q]

def Query.nodes : Query → List Node
  | .select s =>
    s.ctes.map Cte.node ++ s.distinct.nodes ++ s.projections.map .field ++
      s.sources.map .source ++ s.joins.flatMap Join.nodes ++ s.filters.map .predicate ++
      s.groupBy.map .field ++ s.having.map .predicate ++ s.orderBy.map .field
  | .insert s =>
    s.ctes.map Cte.node ++ s.columns.map .field ++ s.rows.flatMap Tuple.nodes ++ s.source.nodes ++
      s.conflict.toList.flatMap Conflict.nodes ++ s.returning.map .field
  | .update s =>
    s.ctes.map Cte.node ++ s.assignments.flatMap Assignment.nodes ++ s.sources.map .source ++
      s.joins.flatMap Join.nodes ++ s.filters.map .predicate ++ s.returning.map .field
  | .delete s =>
    s.ctes.map Cte.node ++ s.sources.map .source ++ s.joins.flatMap Join.nodes ++
      s.filters.map .predicate ++ s.returning.map .field
  | .setOperation s =>
    .query s.head :: s.arms.map (fun a => .query a.query) ++ s.orderBy.map .field

namespace Node

/-- The nodes directly below a node. -/
def children : Node → List Node
  | .field f => f.nodes
  | .predicate p => p.nodes
  | .source t => t.nodes
  | .query q => q.nodes

end Node

/-! ## Sizes -/

section Sizes

variable {α : Type} [SizeOf α] {n : Node}

theorem sizeOf_le_of_mem_flatMap {g : α → List Node} {l : List α}
    (hg : ∀ a, n ∈ g a → sizeOf n ≤ 1 + sizeOf a) (h : n ∈ l.flatMap g) :
    sizeOf n ≤ sizeOf l := by
  obtain ⟨a, ha, hn⟩ := List.mem_flatMap.mp h
  have := hg a hn
  have := List.sizeOf_lt_of_mem ha
  omega

theorem sizeOf_le_of_mem_map {g : α → Node} {l : List α} (hg : ∀ a, sizeOf (g a) ≤ 1 + sizeOf a)
    (h : n ∈ l.map g) : sizeOf n ≤ sizeOf l := by
  obtain ⟨a, ha, rfl⟩ := List.mem_map.mp h
  have := hg a
  have := List.sizeOf_lt_of_mem ha
  omega

theorem sizeOf_field_le {fs : List Field} (h : n ∈ fs.map .field) : sizeOf n ≤ sizeOf fs :=
  sizeOf_le_of_mem_map (by simp) h

theorem sizeOf_predicate_le {ps : List Predicate} (h : n ∈ ps.map .predicate) :
    sizeOf n ≤ sizeOf ps :=
  sizeOf_le_of_mem_map (by simp) h

theorem sizeOf_source_le {ts : List TableSource} (h : n ∈ ts.map .source) :
    sizeOf n ≤ sizeOf ts :=
  sizeOf_le_of_mem_map (by simp) h

theorem sizeOf_args_le {args : List Arg} (h : n ∈ args.flatMap Arg.nodes) :
    sizeOf n ≤ sizeOf args :=
  sizeOf_le_of_mem_flatMap (fun a ha => by cases a <;> simp_all [Arg.nodes]) h

theorem sizeOf_ctes_le {cs : List Cte} (h : n ∈ cs.map Cte.node) : sizeOf n ≤ sizeOf cs :=
  sizeOf_le_of_mem_map (fun c => by cases c; simp [Cte.node]; omega) h

theorem sizeOf_assignments_le {as : List Assignment} (h : n ∈ as.flatMap Assignment.nodes) :
    sizeOf n ≤ sizeOf as := by
  refine sizeOf_le_of_mem_flatMap (fun a ha => ?_) h
  cases a
  simp only [Assignment.nodes, List.mem_cons, List.not_mem_nil, or_false] at ha
  rcases ha with rfl | rfl
  · simp; omega
  · simp

theorem sizeOf_joins_le {js : List Join} (h : n ∈ js.flatMap Join.nodes) :
    sizeOf n ≤ sizeOf js := by
  refine sizeOf_le_of_mem_flatMap (fun j hj => ?_) h
  cases j
  simp only [Join.nodes, List.mem_cons] at hj
  rcases hj with rfl | hj
  · simp; omega
  · have := sizeOf_predicate_le hj
    simp; omega

theorem sizeOf_tuples_le {rs : List Tuple} (h : n ∈ rs.flatMap Tuple.nodes) :
    sizeOf n ≤ sizeOf rs := by
  refine sizeOf_le_of_mem_flatMap (fun r hr => ?_) h
  obtain ⟨values⟩ := r
  have : sizeOf n ≤ sizeOf values := sizeOf_field_le hr
  simp; omega

theorem Distinct.sizeOf_nodes_le {d : Distinct} (h : n ∈ d.nodes) : sizeOf n ≤ sizeOf d := by
  cases d with
  | off | rows => simp [Distinct.nodes] at h
  | byFields fields =>
      have := sizeOf_field_le h
      simp; omega

theorem Conflict.sizeOf_nodes_le {c : Conflict} (h : n ∈ c.nodes) : sizeOf n ≤ sizeOf c := by
  obtain ⟨target, action⟩ := c
  simp only [Conflict.nodes, List.mem_append] at h
  have htarget : n ∈ target.nodes → sizeOf n ≤ sizeOf target := by
    intro h
    cases target with
    | any => simp [ConflictTarget.nodes] at h
    | columns fields filters =>
        rcases List.mem_append.mp h with h | h
        · have := sizeOf_field_le h
          simp; omega
        · have := sizeOf_predicate_le h
          simp; omega
    | constraint name filters =>
        have := sizeOf_predicate_le h
        simp; omega
  have haction : n ∈ action.nodes → sizeOf n ≤ sizeOf action := by
    intro h
    cases action with
    | nothing => simp [ConflictAction.nodes] at h
    | update assignments filters =>
        rcases List.mem_append.mp h with h | h
        · have := sizeOf_assignments_le h
          simp; omega
        · have := sizeOf_predicate_le h
          simp; omega
  rcases h with h | h
  · have := htarget h
    simp; omega
  · have := haction h
    simp; omega

theorem mem_operandNodes {os : List (Option Field)} :
    n ∈ operandNodes os ↔ ∃ f, some f ∈ os ∧ .field f = n := by
  simp [operandNodes]

end Sizes

theorem Field.sizeOf_nodes_lt {n : Node} {f : Field} (h : n ∈ f.nodes) : sizeOf n < sizeOf f := by
  obtain ⟨expr, _, _, _, _⟩ := f
  cases expr with
  | computed template args =>
      have := sizeOf_args_le h
      simp; omega
  | _ => simp [Field.nodes] at h

theorem Predicate.sizeOf_nodes_le {n : Node} {p : Predicate} (h : n ∈ p.nodes) :
    sizeOf n ≤ sizeOf p := by
  cases p with
  | unary operand op =>
      obtain ⟨f, hf, rfl⟩ := mem_operandNodes.mp h
      simp only [List.mem_singleton] at hf
      subst hf; simp; omega
  | binary lhs op rhs =>
      obtain ⟨f, hf, rfl⟩ := mem_operandNodes.mp h
      simp only [List.mem_cons, List.not_mem_nil, or_false] at hf
      rcases hf with rfl | rfl
      · simp; omega
      · simp
  | ternary operand op low high =>
      obtain ⟨f, hf, rfl⟩ := mem_operandNodes.mp h
      simp only [List.mem_cons, List.not_mem_nil, or_false] at hf
      rcases hf with rfl | rfl | rfl
      · simp; omega
      · simp; omega
      · simp
  | group connective members topLevel =>
      have := sizeOf_predicate_le h
      simp; omega
  | negation p =>
      simp only [Predicate.nodes, List.mem_singleton] at h
      simp [h]
  | existence q negated =>
      simp only [Predicate.nodes, List.mem_singleton] at h
      simp [h]
  | custom template args =>
      have := sizeOf_args_le h
      simp; omega

theorem TableSource.sizeOf_nodes_le {n : Node} {t : TableSource} (h : n ∈ t.nodes) :
    sizeOf n ≤ sizeOf t := by
  cases t with
  | base t | reference c => simp [TableSource.nodes] at h
  | cte c =>
      cases c
      simp only [TableSource.nodes, List.mem_singleton] at h
      simp [h]; omega
  | query q =>
      simp only [TableSource.nodes, List.mem_singleton] at h
      simp [h]
  | custom t =>
      cases t
      have := sizeOf_args_le h
      simp at this ⊢; omega

theorem Query.sizeOf_nodes_le {n : Node} {q : Query} (h : n ∈ q.nodes) :
    sizeOf n ≤ sizeOf q := by
  cases q with
  | select s =>
      cases s
      simp only [Query.nodes, List.mem_append] at h
      rcases h with (((((((h | h) | h) | h) | h) | h) | h) | h) | h
      · have := sizeOf_ctes_le h
        simp; omega
      · have := Distinct.sizeOf_nodes_le h
        simp; omega
      · have := sizeOf_field_le h
        simp; omega
      · have := sizeOf_source_le h
        simp; omega
      · have := sizeOf_joins_le h
        simp; omega
      · have := sizeOf_predicate_le h
        simp; omega
      · have := sizeOf_field_le h
        simp; omega
      · have := sizeOf_predicate_le h
        simp; omega
      · have := sizeOf_field_le h
        simp; omega
  | insert s =>
      cases s with
      | mk ctes target columns rows source conflict returning =>
      simp only [Query.nodes, List.mem_append] at h
      rcases h with ((((h | h) | h) | h) | h) | h
      · have := sizeOf_ctes_le h
        simp; omega
      · have := sizeOf_field_le h
        simp; omega
      · have := sizeOf_tuples_le h
        simp; omega
      · cases source with
        | rows => simp [InsertSource.nodes] at h
        | query q =>
            simp only [InsertSource.nodes, List.mem_singleton] at h
            simp [h]; omega
      · cases conflict with
        | none => simp at h
        | some c =>
            have := Conflict.sizeOf_nodes_le (c := c) (by simpa using h)
            simp; omega
      · have := sizeOf_field_le h
        simp; omega
  | update s =>
      cases s
      simp only [Query.nodes, List.mem_append] at h
      rcases h with ((((h | h) | h) | h) | h) | h
      · have := sizeOf_ctes_le h
        simp; omega
      · have := sizeOf_assignments_le h
        simp; omega
      · have := sizeOf_source_le h
        simp; omega
      · have := sizeOf_joins_le h
        simp; omega
      · have := sizeOf_predicate_le h
        simp; omega
      · have := sizeOf_field_le h
        simp; omega
  | delete s =>
      cases s
      simp only [Query.nodes, List.mem_append] at h
      rcases h with (((h | h) | h) | h) | h
      · have := sizeOf_ctes_le h
        simp; omega
      · have := sizeOf_source_le h
        simp; omega
      · have := sizeOf_joins_le h
        simp; omega
      · have := sizeOf_predicate_le h
        simp; omega
      · have := sizeOf_field_le h
        simp; omega
  | setOperation s =>
      cases s
      simp only [Query.nodes, List.cons_append, List.mem_cons, List.mem_append] at h
      rcases h with rfl | h | h
      · simp; omega
      · have := sizeOf_le_of_mem_map (fun a => by cases a; simp) h
        simp; omega
      · have := sizeOf_field_le h
        simp; omega

namespace Node

theorem sizeOf_lt_of_mem_children {n c : Node} (h : c ∈ n.children) : sizeOf c < sizeOf n := by
  cases n with
  | field f => have := Field.sizeOf_nodes_lt h; simp; omega
  | predicate p => have := Predicate.sizeOf_nodes_le h; simp; omega
  | source t => have := TableSource.sizeOf_nodes_le h; simp; omega
  | query q => have := Query.sizeOf_nodes_le h; simp; omega

/-- A property that every node inherits from the nodes directly below it holds of every node. -/
theorem induction {P : Node → Prop} (step : ∀ n, (∀ c ∈ n.children, P c) → P n) (n : Node) : P n :=
  step n fun c _ => induction step c
termination_by sizeOf n
decreasing_by exact sizeOf_lt_of_mem_children ‹_›

end Node

end SqlCompose
