import SqlCompose.Delete
import SqlCompose.Proofs.Alignment
import SqlCompose.Proofs.Layout
import SqlCompose.Proofs.Numbering
import SqlCompose.Proofs.Tree

/-!
# Values in their positions

The text of every statement is read as the pieces that its tree writes, whatever its operators are.
Only operators are copied unescaped: where they hold no question mark, each value has a placeholder
of its own, in the order of the values.
-/

namespace SqlCompose

variable {K : Piece.Copies}

/-! ## Parts of statements -/

theorem legible_columnDoc (e : Exclude) (qualifier : Option String) (name : String) :
    (columnDoc e qualifier name).Legible K := by
  unfold columnDoc
  split
  · split
    · exact Doc.legible_text _
    · exact ((Doc.legible_empty.text_cons _).text_cons _).text_cons _
  · exact Doc.legible_text _

theorem head?_orderingWords_ne (order : Option SortOrder) (nulls : Option NullsOrder) :
    (orderingWords order nulls).toList.head? ≠ some '?' := by
  cases order with
  | none =>
      cases nulls with
      | none => simp [orderingWords]
      | some n => cases n <;> simp [orderingWords, NullsOrder.words]
  | some o => cases o <;> simp [orderingWords, SortOrder.words]

theorem legible_lockDoc (l : Option Lock) : (lockDoc l).Legible K := by
  cases l with
  | none => exact Doc.legible_empty
  | some l => exact ((Doc.legible_empty.text_cons _).text_cons _).text_cons _

theorem legible_countDoc (n : Option Int64) : (countDoc n).Legible K := by
  cases n with
  | none => exact Doc.legible_empty
  | some n => exact Doc.legible_bind _

theorem legible_withDoc (ctes : List Cte) {d : Doc} (h : d.Legible K) :
    (withDoc ctes d).Legible K := by
  rw [withDoc]
  split
  · exact Doc.legible_enclosed h _ (by simp)
  · exact h

theorem BaseTable.legible_doc (t : BaseTable) : t.doc.Legible K := by
  rw [BaseTable.doc]
  split
  · exact Doc.legible_text _
  · exact ((Doc.legible_empty.text_cons _).text_cons _).text_cons _

theorem BaseTable.legible_sourceDoc (t : BaseTable) : t.sourceDoc.Legible K :=
  Doc.legible_named t.legible_doc _

namespace Node

/-- The operators of a node, which are copied as they are. -/
def operators : Node → List String
  | .predicate (.unary _ op) => [op]
  | .predicate (.binary _ op _) => [op]
  | .predicate (.ternary _ op _ _) => [op]
  | _ => []

/-- A node is another one or stands below it, at any depth. -/
inductive Within : Node → Node → Prop where
  | refl (n : Node) : Within n n
  | child {m c n : Node} : Within m c → c ∈ n.children → Within m n

/-- What holds of a node and of everything within its children holds of everything within it. -/
theorem forall_within {P : Node → Prop} {n : Node} {cs : List Node} (hcs : n.children = cs)
    (hn : P n) (h : ∀ c ∈ cs, ∀ m : Node, m.Within c → P m) : ∀ m : Node, m.Within n → P m := by
  intro m hm
  cases hm with
  | refl => exact hn
  | child hm hc => exact h _ (hcs ▸ hc) m hm

/-- The documents of a node are aligned, wherever the node stands. -/
def Aligned : Node → Prop
  | .field f => ∀ e, (f.expr.doc e).Aligned
  | .predicate p => ∀ e w, ((p.withFlag false).doc e w).Aligned
  | .source t => t.doc.Aligned
  | .query q => q.doc.Aligned

/-- The documents of a node are legible, wherever the node stands. -/
def Legible (K : Piece.Copies) : Node → Prop
  | .field f => ∀ e, (f.expr.doc e).Legible K
  | .predicate p => ∀ e w, ((p.withFlag false).doc e w).Legible K
  | .source t => t.doc.Legible K
  | .query q => q.doc.Legible K

theorem Legible.aligned {n : Node} (h : n.Legible K) (hK : ∀ s, K.allows s → '?' ∉ s.toList) :
    n.Aligned := by
  cases n with
  | field f => exact fun e => Piece.Legible.aligned (h e) hK
  | predicate p => exact fun e w => Piece.Legible.aligned (h e w) hK
  | source t => exact Piece.Legible.aligned h hK
  | query q => exact Piece.Legible.aligned h hK

theorem Legible.fieldDoc {f : Field} (h : (Node.field f).Legible K) (e : Exclude) :
    (f.doc e).Legible K := by
  cases f
  simp only [Field.doc]
  exact Doc.legible_follow (h e) (Doc.legible_text _) (Doc.ready_text (head?_orderingWords_ne _ _))

theorem Legible.projectionDoc {f : Field} (h : (Node.field f).Legible K) (e : Exclude) :
    (f.projectionDoc e).Legible K := by
  cases f
  simp only [Field.projectionDoc]
  exact Doc.legible_named (h e) _

theorem Legible.predicateDoc {p : Predicate} (h : (Node.predicate p).Legible K) (e : Exclude)
    (w : Bool) : (p.doc e w).Legible K := by
  have hdoc := Predicate.doc_withFlag e w p.flag p
  rw [Predicate.withFlag_flag] at hdoc
  rw [hdoc]
  exact h e _

/-! ## Lists of nodes -/

theorem legible_fieldDocs {fs : List Field} (h : ∀ f ∈ fs, (Node.field f).Legible K) (e : Exclude) :
    (Doc.list (fieldDocs e fs)).Legible K := by
  rw [fieldDocs_eq]
  exact Doc.legible_list (List.forall_mem_map.mpr fun f hf => (h f hf).fieldDoc e)

theorem legible_projectionDocs {fs : List Field} (h : ∀ f ∈ fs, (Node.field f).Legible K) :
    (Doc.list (projectionDocs fs)).Legible K := by
  rw [projectionDocs_eq]
  exact Doc.legible_list (List.forall_mem_map.mpr fun f hf => (h f hf).projectionDoc .none)

theorem legible_groupDoc {ps : List Predicate} (h : ∀ p ∈ ps, (Node.predicate p).Legible K)
    (e : Exclude) (c : Connective) (w : Bool) : (groupDoc e c w ps).Legible K := by
  by_cases hne : ps = []
  · subst hne
    rw [groupDoc_nil]
    exact Doc.legible_empty
  cases hl : isLoneGroup ps with
  | true =>
      obtain ⟨i, ms, t, rfl⟩ := exists_of_isLoneGroup hl
      rw [groupDoc_lone]
      simpa [Predicate.withFlag] using h _ (List.mem_singleton.mpr rfl) e w
  | false =>
      rw [groupDoc_of_not_lone hl hne]
      exact Doc.legible_joined (List.forall_mem_map.mpr fun p hp => (h p hp).predicateDoc e false)
        (by cases c <;> simp [Connective.separator]) (by cases c <;> simp [Connective.separator]) _

theorem legible_argDocs {args : List Arg} (h : ∀ a ∈ args, ∀ n ∈ a.nodes, n.Legible K)
    (e : Exclude) : ∀ d, some d ∈ argDocs e args → d.Legible K := by
  intro d hd
  rw [argDocs_eq] at hd
  obtain ⟨a, ha, hdoc⟩ := List.mem_map.mp hd
  have hn := h a ha
  cases a with
  | null =>
      obtain rfl : _ = d := by simpa [Arg.doc?] using hdoc
      exact Doc.legible_text _
  | value v =>
      obtain rfl : _ = d := by simpa [Arg.doc?] using hdoc
      exact Doc.legible_bind v
  | list vs =>
      obtain ⟨_, rfl⟩ : _ ∧ _ = d := by simpa [Arg.doc?] using hdoc
      exact Doc.legible_list (List.forall_mem_map.mpr fun v _ => Doc.legible_bind v)
  | field f =>
      obtain rfl : _ = d := by simpa [Arg.doc?] using hdoc
      exact Legible.fieldDoc (hn _ (List.mem_singleton.mpr rfl)) e
  | predicate p =>
      obtain rfl : _ = d := by simpa [Arg.doc?] using hdoc
      exact Legible.predicateDoc (hn _ (List.mem_singleton.mpr rfl)) e false
  | table t =>
      obtain rfl : _ = d := by simpa [Arg.doc?] using hdoc
      exact hn (.source t) (List.mem_singleton.mpr rfl)
  | query q =>
      obtain rfl : _ = d := by simpa [Arg.doc?] using hdoc
      exact hn (.query q) (List.mem_singleton.mpr rfl)

theorem legible_operandDoc {o : Option Field} (h : ∀ f, o = some f → (Node.field f).Legible K)
    (e : Exclude) : (operandDoc e o).Legible K := by
  cases o with
  | none =>
      simp only [operandDoc]
      exact Doc.legible_text _
  | some f =>
      simp only [operandDoc]
      exact Doc.legible_orNull ((h f rfl).fieldDoc e)

theorem legible_sourceDocs {ts : List TableSource} (h : ∀ t ∈ ts, (Node.source t).Legible K) :
    (Doc.list (sourceDocs ts)).Legible K := by
  rw [sourceDocs_eq]
  exact Doc.legible_list (List.forall_mem_map.mpr fun t ht => Doc.legible_named (h t ht) _)

theorem legible_cteDocs {cs : List Cte} (h : ∀ c ∈ cs, c.node.Legible K) :
    (Doc.list (cteDocs cs)).Legible K := by
  rw [cteDocs_eq]
  refine Doc.legible_list (List.forall_mem_map.mpr fun c hc => ?_)
  have hq : c.query.doc.Legible K := h c hc
  cases c
  simp only [Cte.doc]
  exact Doc.legible_enclosed hq _ (by simp)

theorem legible_joinDocs {js : List Join} (h : ∀ j ∈ js, ∀ n ∈ j.nodes, n.Legible K) :
    (Doc.clauses (joinDocs js)).Legible K := by
  rw [joinDocs_eq]
  refine Doc.legible_clauses (List.forall_mem_map.mpr fun j hj => ?_)
  obtain ⟨htarget, hconditions⟩ := List.forall_mem_cons.mp (h j hj)
  cases j
  simp only [Join.doc]
  refine Doc.legible_follow (Doc.legible_enclosed (Doc.legible_named htarget _) _ (by simp)) ?_ ?_
  · split
    · exact Doc.legible_empty
    · exact Doc.legible_enclosed (legible_groupDoc (List.forall_mem_map.mp hconditions) _ _ _) _
        (by simp)
  · split
    · exact Doc.ready_empty
    · exact Doc.ready_enclosed (by simp) (by simp) _ _

theorem legible_assignmentDoc {a : Assignment} (h : ∀ n ∈ a.nodes, n.Legible K) (e : Exclude) :
    (a.doc e).Legible K := by
  obtain ⟨column, value⟩ := a
  have hcolumn : (Node.field column).Legible K := h _ (by simp [Assignment.nodes])
  have hvalue : (Node.field value).Legible K := h _ (by simp [Assignment.nodes])
  simp only [Assignment.doc]
  refine Doc.legible_framed ?_ ?_ (hvalue.fieldDoc .none) Doc.legible_empty Doc.ready_empty
  · exact (hcolumn.fieldDoc e).cons_text Doc.legible_empty (by simp) (by simp)
  · exact Doc.finished_seq_text _ (by simp)

theorem legible_assignmentDocs {as : List Assignment} (h : ∀ a ∈ as, ∀ n ∈ a.nodes, n.Legible K)
    (e : Exclude) : (Doc.list (assignmentDocs e as)).Legible K := by
  rw [assignmentDocs_eq]
  exact Doc.legible_list (List.forall_mem_map.mpr fun a ha => legible_assignmentDoc (h a ha) e)

/-! ## Nodes -/

theorem legible_distinctDoc {d : Distinct} (h : ∀ n ∈ d.nodes, n.Legible K) :
    d.doc.Legible K ∧ d.doc.Finished := by
  cases d with
  | off =>
      simp only [Distinct.doc]
      exact ⟨Doc.legible_empty, Doc.finished_empty⟩
  | rows =>
      simp only [Distinct.doc]
      exact ⟨Doc.legible_text _, Doc.finished_text _⟩
  | byFields fields =>
      simp only [Distinct.doc]
      exact ⟨Doc.legible_enclosed (legible_fieldDocs (List.forall_mem_map.mp h) _) _ (by simp),
        Doc.finished_enclosed _ (by simp) _⟩

theorem legible_conflictDoc {c : Conflict} (h : ∀ n ∈ c.nodes, n.Legible K) (e : Exclude) :
    (c.doc e).Legible K := by
  obtain ⟨target, action⟩ := c
  obtain ⟨htarget, haction⟩ := List.forall_mem_append.mp h
  have ht : (target.doc e).Legible K := by
    cases target with
    | any =>
        simp only [ConflictTarget.doc]
        exact Doc.legible_empty
    | columns fields filters =>
        obtain ⟨hfields, hfilters⟩ := List.forall_mem_append.mp htarget
        simp only [ConflictTarget.doc]
        exact Doc.legible_follow
          (Doc.legible_enclosed (legible_fieldDocs (List.forall_mem_map.mp hfields) _) _ (by simp))
          (Doc.legible_enclosed (legible_groupDoc (List.forall_mem_map.mp hfilters) _ _ _) _
            (by simp))
          (Doc.ready_enclosed (by simp) (by simp) _ _)
    | constraint name filters =>
        simp only [ConflictTarget.doc]
        exact Doc.legible_text _
  have ha : (action.doc e).Legible K ∧ (action.doc e).Ready := by
    cases action with
    | nothing =>
        simp only [ConflictAction.doc]
        exact ⟨Doc.legible_text _, Doc.ready_text (by simp)⟩
    | update assignments filters =>
        cases assignments with
        | nil =>
            simp only [ConflictAction.doc]
            exact ⟨Doc.legible_text _, Doc.ready_text (by simp)⟩
        | cons a rest =>
            obtain ⟨hassignments, hfilters⟩ := List.forall_mem_append.mp haction
            have hset := legible_assignmentDocs (List.forall_mem_flatMap.mp hassignments) e
            have hgroup := legible_groupDoc (List.forall_mem_map.mp hfilters) .none .and true
            have hwhere := Doc.legible_enclosed (c := "") hgroup " WHERE " (by simp)
            rw [assignmentDocs] at hset
            simp only [ConflictAction.doc]
            refine ⟨(hset.pair hwhere ?_).text_cons _, Doc.ready_text_cons (by simp) (by simp) _⟩
            exact Doc.ready_enclosed (by simp) (by simp) _ _
  simp only [Conflict.doc]
  exact (ht.pair ha.1 ha.2).text_cons _

theorem legible_tupleDocs {rs : List Tuple} (h : ∀ r ∈ rs, ∀ n ∈ r.nodes, n.Legible K) :
    (Doc.list (tupleDocs rs)).Legible K := by
  rw [tupleDocs_eq]
  refine Doc.legible_list (List.forall_mem_map.mpr fun r hr => ?_)
  have hvalues := List.forall_mem_map.mp (h r hr)
  cases r
  simp only [Tuple.doc, valueDocs_eq]
  refine Doc.legible_parens (Doc.legible_list (List.forall_mem_map.mpr fun f hf => ?_))
  exact Doc.legible_orNull (Legible.fieldDoc (hvalues f hf) .none)

theorem legible_field {f : Field} (h : ∀ n ∈ f.nodes, n.Legible K) : (Node.field f).Legible K := by
  intro e
  obtain ⟨expr, type, label, order, nulls⟩ := f
  cases expr with
  | literal v =>
      simp only [Expr.doc]
      exact Doc.legible_bind v
  | column qualifier name =>
      simp only [Expr.doc]
      exact legible_columnDoc e qualifier name
  | computed template args =>
      simp only [Expr.doc]
      exact Template.legible_doc template (legible_argDocs (List.forall_mem_flatMap.mp h) e)
  | null =>
      simp only [Expr.doc]
      exact Doc.legible_text _

theorem legible_predicate {p : Predicate}
    (ho : ∀ op ∈ (Node.predicate p).operators, K.allows op)
    (h : ∀ n ∈ p.nodes, n.Legible K) : (Node.predicate p).Legible K := by
  intro e w
  have hoperand (os : List (Option Field)) (hn : ∀ n ∈ operandNodes os, n.Legible K) :
      ∀ o ∈ os, (operandDoc e o).Legible K := by
    intro o hmem
    refine legible_operandDoc (fun f hf => ?_) e
    subst hf
    exact hn _ (mem_operandNodes.mpr ⟨f, hmem, rfl⟩)
  cases p with
  | unary operand op =>
      have hop : K.allows op := ho op (List.mem_singleton.mpr rfl)
      have hx := hoperand [operand] h operand (by simp)
      simp only [Predicate.withFlag, Predicate.doc]
      exact hx.cons_text (Doc.legible_empty.operator_cons Doc.ready_empty hop) (by simp) (by simp)
  | binary lhs op rhs =>
      have hop : K.allows op := ho op (List.mem_singleton.mpr rfl)
      have hl := hoperand [lhs, rhs] h lhs (by simp)
      have hr := hoperand [lhs, rhs] h rhs (by simp)
      simp only [Predicate.withFlag, Predicate.doc]
      have hready := Doc.ready_text_cons (s := " ") (by simp) (by simp) [operandDoc e rhs]
      exact hl.cons_text ((hr.alone.text_cons " ").operator_cons hready hop) (by simp) (by simp)
  | ternary operand op low high =>
      have hop : K.allows op := ho op (List.mem_singleton.mpr rfl)
      have hx := hoperand [operand, low, high] h operand (by simp)
      have hl := hoperand [operand, low, high] h low (by simp)
      have hh := hoperand [operand, low, high] h high (by simp)
      have hbounds := hl.cons_text hh.alone (s := " AND ") (by simp) (by simp)
      simp only [Predicate.withFlag, Predicate.doc]
      have hready := Doc.ready_text_cons (s := " ") (by simp) (by simp)
        [operandDoc e low, .text " AND ", operandDoc e high]
      exact hx.cons_text ((hbounds.text_cons " ").operator_cons hready hop) (by simp) (by simp)
  | group c ms t =>
      simp only [Predicate.withFlag, Predicate.doc_group]
      exact legible_groupDoc (List.forall_mem_map.mp h) e c _
  | negation p =>
      have hp := Legible.predicateDoc (h _ (List.mem_singleton.mpr rfl)) e true
      simp only [Predicate.withFlag, Predicate.doc]
      exact Doc.legible_enclosed hp _ (by simp)
  | existence q negated =>
      have hq : (Node.query q).Legible K := h _ (List.mem_singleton.mpr rfl)
      simp only [Predicate.withFlag, Predicate.doc]
      exact Doc.legible_enclosed hq _ (by simp)
  | custom template args =>
      simp only [Predicate.withFlag, Predicate.doc]
      exact Template.legible_doc template (legible_argDocs (List.forall_mem_flatMap.mp h) e)

theorem legible_source {t : TableSource} (h : ∀ n ∈ t.nodes, n.Legible K) :
    (Node.source t).Legible K := by
  show t.doc.Legible K
  cases t with
  | base t =>
      simp only [TableSource.doc]
      exact t.legible_doc
  | cte c =>
      simp only [TableSource.doc]
      exact Doc.legible_text _
  | reference c =>
      simp only [TableSource.doc]
      exact Doc.legible_text _
  | query q =>
      have hq : (Node.query q).Legible K := h _ (List.mem_singleton.mpr rfl)
      simp only [TableSource.doc]
      exact Doc.legible_parens hq
  | custom t =>
      cases t
      simp only [TableSource.doc, CustomTable.doc]
      exact Template.legible_doc _ (legible_argDocs (List.forall_mem_flatMap.mp h) _)

/-! ## Statements -/

theorem legible_with {cs : List Cte} (h : ∀ c ∈ cs, c.node.Legible K) :
    (Doc.keyword "WITH" (withDoc cs (.list (cteDocs cs)))).Legible K :=
  Doc.legible_keyword (legible_withDoc cs (legible_cteDocs h)) _

theorem legible_condition {ps : List Predicate} (h : ∀ p ∈ ps, (Node.predicate p).Legible K)
    (w : String) : (Doc.keyword w (groupDoc .none .and true ps)).Legible K :=
  Doc.legible_keyword (legible_groupDoc h _ _ _) w

theorem legible_tables {ts : List TableSource} (ht : ∀ t ∈ ts, (Node.source t).Legible K)
    {js : List Join} (hj : ∀ j ∈ js, ∀ n ∈ j.nodes, n.Legible K) (w : String) :
    (Doc.follow (.keyword w (.list (sourceDocs ts)))
      (.enclosed " " "" (.clauses (joinDocs js)))).Legible K :=
  Doc.legible_follow (Doc.legible_keyword (legible_sourceDocs ht) w)
    (Doc.legible_enclosed (legible_joinDocs hj) _ (by simp))
    (Doc.ready_enclosed (by simp) (by simp) _ _)

theorem legible_target (words : String) (t : BaseTable) :
    (Doc.seq [.text words, t.sourceDoc]).Legible K :=
  t.legible_sourceDoc.alone.text_cons words

theorem legible_select {s : Select} (h : ∀ n ∈ (Query.select s).nodes, n.Legible K) :
    s.doc.Legible K := by
  simp only [Query.nodes, List.forall_mem_append, List.forall_mem_map,
    List.forall_mem_flatMap] at h
  obtain ⟨⟨⟨⟨⟨⟨⟨⟨hctes, hdistinct⟩, hprojections⟩, hsources⟩, hjoins⟩, hfilters⟩, hgroups⟩,
    hhaving⟩, horder⟩ := h
  cases s
  simp only [Select.doc]
  refine Doc.legible_clauses ?_
  simp only [List.forall_mem_cons, List.not_mem_nil, false_imp_iff, implies_true, and_true]
  have hall := Doc.legible_orElse (legible_projectionDocs hprojections) (Doc.legible_text "*")
  obtain ⟨hd, hf⟩ := legible_distinctDoc hdistinct
  exact ⟨legible_with hctes, (hd.cons hall.alone (.inl hf)).text_cons _,
    Doc.legible_keyword (legible_sourceDocs hsources) _, legible_joinDocs hjoins,
    legible_condition hfilters _, Doc.legible_keyword (legible_fieldDocs hgroups _) _,
    legible_condition hhaving _, Doc.legible_keyword (legible_fieldDocs horder _) _,
    Doc.legible_keyword (legible_countDoc _) _, Doc.legible_keyword (legible_countDoc _) _,
    legible_lockDoc _⟩

theorem legible_insert {s : Insert} (h : ∀ n ∈ (Query.insert s).nodes, n.Legible K) :
    s.doc.Legible K := by
  simp only [Query.nodes, List.forall_mem_append, List.forall_mem_map,
    List.forall_mem_flatMap] at h
  obtain ⟨⟨⟨⟨⟨hctes, hcolumns⟩, hrows⟩, hsource⟩, hconflict⟩, hreturning⟩ := h
  cases s with
  | mk ctes target columns rows source conflict returning _ _ _ =>
  simp only [Insert.doc]
  refine Doc.legible_clauses ?_
  simp only [List.forall_mem_cons, List.not_mem_nil, false_imp_iff, implies_true, and_true]
  refine ⟨legible_with hctes, ?_, ?_, ?_,
    Doc.legible_keyword (legible_projectionDocs hreturning) _⟩
  · have hlist := Doc.legible_enclosed (c := ")")
      (legible_fieldDocs hcolumns ⟨[target.qualifier]⟩) " (" (by simp)
    have hready := Doc.ready_enclosed (o := " (") (by simp) (by simp) ")"
      (.list (fieldDocs ⟨[target.qualifier]⟩ columns))
    exact (target.legible_sourceDoc.pair hlist hready).text_cons _
  · cases source with
    | rows =>
        simp only [InsertSource.doc]
        split
        · exact Doc.legible_text _
        · have htuples := legible_tupleDocs hrows
          exact htuples.alone.text_cons _
    | query q =>
        simp only [InsertSource.doc]
        exact hsource _ (List.mem_singleton.mpr rfl)
  · cases conflict with
    | none =>
        simp only [conflictDoc]
        exact Doc.legible_empty
    | some c =>
        simp only [conflictDoc]
        exact legible_conflictDoc (hconflict c (by simp)) _

theorem legible_update {s : Update} (h : ∀ n ∈ (Query.update s).nodes, n.Legible K) :
    s.doc.Legible K := by
  simp only [Query.nodes, List.forall_mem_append, List.forall_mem_map,
    List.forall_mem_flatMap] at h
  obtain ⟨⟨⟨⟨⟨hctes, hassignments⟩, hsources⟩, hjoins⟩, hfilters⟩, hreturning⟩ := h
  cases s
  simp only [Update.doc]
  refine Doc.legible_clauses ?_
  simp only [List.forall_mem_cons, List.not_mem_nil, false_imp_iff, implies_true, and_true]
  exact ⟨legible_with hctes, legible_target _ _,
    Doc.legible_keyword (legible_assignmentDocs hassignments _) _,
    legible_tables hsources hjoins _, legible_condition hfilters _,
    Doc.legible_keyword (legible_projectionDocs hreturning) _⟩

theorem legible_delete {s : Delete} (h : ∀ n ∈ (Query.delete s).nodes, n.Legible K) :
    s.doc.Legible K := by
  simp only [Query.nodes, List.forall_mem_append, List.forall_mem_map,
    List.forall_mem_flatMap] at h
  obtain ⟨⟨⟨⟨hctes, hsources⟩, hjoins⟩, hfilters⟩, hreturning⟩ := h
  cases s
  simp only [Delete.doc]
  refine Doc.legible_clauses ?_
  simp only [List.forall_mem_cons, List.not_mem_nil, false_imp_iff, implies_true, and_true]
  exact ⟨legible_with hctes, legible_target _ _, legible_tables hsources hjoins _,
    legible_condition hfilters _, Doc.legible_keyword (legible_projectionDocs hreturning) _⟩

theorem legible_armDoc {a : Arm} (h : (Node.query a.query).Legible K) :
    a.doc.Legible K ∧ a.doc.Ready := by
  obtain ⟨o, q⟩ := a
  simp only [Arm.doc]
  exact ⟨Doc.legible_enclosed h _ (by simp),
    Doc.ready_enclosed (by cases o <;> simp [SetOperator.words])
      (by cases o <;> simp [SetOperator.words]) _ _⟩

theorem legible_setOperation {s : SetOperation}
    (h : ∀ n ∈ (Query.setOperation s).nodes, n.Legible K) : s.doc.Legible K := by
  simp only [Query.nodes, List.cons_append, List.forall_mem_cons, List.forall_mem_append,
    List.forall_mem_map] at h
  obtain ⟨hhead, harms, horder⟩ := h
  obtain ⟨head, arms, _, _, _, _, _, _⟩ := s
  simp only [SetOperation.doc, armDocs_eq]
  refine Doc.legible_clauses ?_
  simp only [List.forall_mem_cons, List.not_mem_nil, false_imp_iff, implies_true, and_true]
  have hrest : ∀ d ∈ arms.map Arm.doc, d.Legible K ∧ d.Ready :=
    List.forall_mem_map.mpr fun a ha => legible_armDoc (harms a ha)
  refine ⟨(Doc.legible_parens hhead).cons (Doc.legible_seq hrest)
    (.inr (Doc.ready_seq fun d hd => (hrest d hd).2)), ?_, ?_, ?_⟩
  · exact Doc.legible_keyword (legible_fieldDocs horder _) _
  · exact Doc.legible_keyword (legible_countDoc _) _
  · exact Doc.legible_keyword (legible_countDoc _) _

theorem legible_query {q : Query} (h : ∀ n ∈ q.nodes, n.Legible K) : (Node.query q).Legible K := by
  show q.doc.Legible K
  cases q with
  | select s =>
      simp only [Query.doc]
      exact legible_select h
  | insert s =>
      simp only [Query.doc]
      exact legible_insert h
  | update s =>
      simp only [Query.doc]
      exact legible_update h
  | delete s =>
      simp only [Query.doc]
      exact legible_delete h
  | setOperation s =>
      simp only [Query.doc]
      exact legible_setOperation h

/-- A tree is legible, down to the last node, if its operators may be copied. -/
theorem legible_of_operators (K : Piece.Copies) (n : Node)
    (h : ∀ m : Node, m.Within n → ∀ op ∈ m.operators, K.allows op) : n.Legible K := by
  induction n using Node.induction with
  | step n ih =>
      have hchildren : ∀ c ∈ n.children, c.Legible K := fun c hc =>
        ih c hc fun m hm => h m (.child hm hc)
      cases n with
      | field f => exact legible_field hchildren
      | predicate p => exact legible_predicate (h _ (.refl _)) hchildren
      | source t => exact legible_source hchildren
      | query q => exact legible_query hchildren

/-- A tree whose operators hold no question mark is aligned, down to the last node. -/
theorem aligned_of_operators (n : Node)
    (h : ∀ m : Node, m.Within n → ∀ op ∈ m.operators, '?' ∉ op.toList) : n.Aligned :=
  (legible_of_operators ⟨fun s => '?' ∉ s.toList, fun _ hs => hs⟩ n h).aligned fun _ hs => hs

end Node

/-! ## Statements in a dialect -/

namespace Node

/-- The operators of a comparison of fields that have nothing below them. -/
theorem operators_of_compare {f g : Field} {op : String} (hop : '?' ∉ op.toList)
    (hf : (Node.field f).children = []) (hg : (Node.field g).children = []) :
    ∀ m : Node, m.Within (.predicate (f.compare op g)) → ∀ op ∈ m.operators, '?' ∉ op.toList := by
  have hchildren : (Node.predicate (f.compare op g)).children = [.field f, .field g] := rfl
  refine forall_within hchildren (List.forall_mem_singleton.mpr hop) ?_
  refine List.forall_mem_cons.mpr ⟨?_, List.forall_mem_singleton.mpr ?_⟩
  · exact forall_within hf nofun nofun
  · exact forall_within hg nofun nofun

end Node

namespace Query

end Query

end SqlCompose
