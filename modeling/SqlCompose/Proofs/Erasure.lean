import SqlCompose.Proofs.Clauses

/-!
# Excluded and erased qualifiers

A qualifier may be excluded while an expression is laid out, or be erased from the tree before. Both
give the same document: what has no text without its qualifiers is left out at the same places, and
statements and tables inside the expression keep all their qualifiers.
-/

namespace SqlCompose

/-! ## Entries -/

namespace Exclude

/-- An entry names a qualifier with a dot after it or, if the qualifier does not end in a dot
itself, as it is. -/
def Names (e : Exclude) (q : String) : Prop :=
  q ++ "." ∈ e.qualifiers ∨ q ∈ e.qualifiers ∧ q.toList.getLast? ≠ some '.'

instance (e : Exclude) (q : String) : Decidable (e.Names q) :=
  inferInstanceAs (Decidable (_ ∨ _))

theorem stripDot_append_dot (s : String) : stripDot (s ++ ".") = s := by
  have hdot : ".".toList = ['.'] := by decide
  simp [stripDot, hdot]

theorem stripDot_eq_self {s : String} (h : s.toList.getLast? ≠ some '.') :
    stripDot s = s := by
  unfold stripDot
  split
  · next rest hs =>
    rw [List.getLast?_eq_head?_reverse, hs] at h
    exact absurd rfl h
  · rfl

theorem stripDot_eq_iff {s q : String} :
    stripDot s = q ↔ s = q ++ "." ∨ s = q ∧ q.toList.getLast? ≠ some '.' := by
  constructor
  · rintro rfl
    by_cases hs : s.toList.getLast? = some '.'
    · obtain ⟨cs, hcs⟩ := List.getLast?_eq_some_iff.mp hs
      have hdot : s = String.ofList cs ++ "." := by
        rw [← String.toList_inj, hcs, String.toList_append, String.toList_ofList]
        rfl
      left
      rw [hdot, stripDot_append_dot]
    · right
      rw [stripDot_eq_self hs]
      exact ⟨rfl, hs⟩
  · rintro (rfl | ⟨rfl, hs⟩)
    · exact stripDot_append_dot q
    · exact stripDot_eq_self hs

theorem contains_iff (e : Exclude) (q : String) : e.contains q = true ↔ e.Names q := by
  simp only [contains, List.any_eq_true, beq_iff_eq, stripDot_eq_iff, Names]
  constructor
  · rintro ⟨s, hs, rfl | ⟨rfl, hq⟩⟩
    · exact .inl hs
    · exact .inr ⟨hs, hq⟩
  · rintro (hs | ⟨hs, hq⟩)
    · exact ⟨_, hs, .inl rfl⟩
    · exact ⟨_, hs, .inr ⟨rfl, hq⟩⟩

theorem contains_eq (e : Exclude) : e.contains = fun q => decide (e.Names q) := by
  funext q
  rw [Bool.eq_iff_iff, contains_iff, decide_eq_true_eq]

/-- The same entry, or one that does not end in a dot and the other with a dot after it. -/
def AlikeEntries (s t : String) : Prop :=
  s = t ∨ s.toList.getLast? ≠ some '.' ∧ t = s ++ "." ∨
    t.toList.getLast? ≠ some '.' ∧ s = t ++ "."

/-- Each entry of one list is among those of the other, written in one way or the other. -/
def Alike (e e' : Exclude) : Prop :=
  (∀ s ∈ e.qualifiers, ∃ t ∈ e'.qualifiers, AlikeEntries s t) ∧
    ∀ t ∈ e'.qualifiers, ∃ s ∈ e.qualifiers, AlikeEntries s t

instance (s t : String) : Decidable (AlikeEntries s t) := inferInstanceAs (Decidable (_ ∨ _))

instance (e e' : Exclude) : Decidable (e.Alike e') := inferInstanceAs (Decidable (_ ∧ _))

theorem AlikeEntries.stripDot_eq {s t : String} (h : AlikeEntries s t) :
    stripDot s = stripDot t := by
  rcases h with rfl | ⟨hs, rfl⟩ | ⟨ht, rfl⟩
  · rfl
  · rw [stripDot_append_dot, stripDot_eq_self hs]
  · rw [stripDot_append_dot, stripDot_eq_self ht]

theorem Alike.contains_eq {e e' : Exclude} (h : e.Alike e') : e.contains = e'.contains := by
  funext q
  rw [Bool.eq_iff_iff]
  simp only [contains, List.any_eq_true, beq_iff_eq]
  constructor
  · rintro ⟨s, hs, rfl⟩
    obtain ⟨t, ht, hst⟩ := h.1 s hs
    exact ⟨t, ht, hst.stripDot_eq.symm⟩
  · rintro ⟨t, ht, rfl⟩
    obtain ⟨s, hs, hst⟩ := h.2 t ht
    exact ⟨s, hs, hst.stripDot_eq⟩

end Exclude

/-! ## Erased trees -/

mutual

def Expr.erase (drop : String → Bool) : Expr → Expr
  | .literal v => .literal v
  | .column qualifier name => .column (qualifier.filter (! drop ·)) name
  | .computed template args => .computed template (eraseArgs drop args)
  | .null => .null

/-- The field without some of its qualifiers. Those inside its statements and tables stay. -/
def Field.erase (drop : String → Bool) : Field → Field
  | ⟨expr, type, label, order, nulls⟩ => ⟨expr.erase drop, type, label, order, nulls⟩

def eraseOperand (drop : String → Bool) : Option Field → Option Field
  | some f => some (f.erase drop)
  | none => none

def Arg.erase (drop : String → Bool) : Arg → Arg
  | .null => .null
  | .value v => .value v
  | .list vs => .list vs
  | .field f => .field (f.erase drop)
  | .predicate p => .predicate (p.erase drop)
  | .table t => .table t
  | .query q => .query q

def eraseArgs (drop : String → Bool) : List Arg → List Arg
  | [] => []
  | a :: rest => a.erase drop :: eraseArgs drop rest

/-- The predicate without some of its qualifiers. Those inside its statements and tables stay. -/
def Predicate.erase (drop : String → Bool) : Predicate → Predicate
  | .unary operand op => .unary (eraseOperand drop operand) op
  | .binary lhs op rhs => .binary (eraseOperand drop lhs) op (eraseOperand drop rhs)
  | .ternary operand op low high =>
    .ternary (eraseOperand drop operand) op (eraseOperand drop low) (eraseOperand drop high)
  | .group connective members topLevel =>
    .group connective (erasePredicates drop members) topLevel
  | .negation p => .negation (p.erase drop)
  | .existence q negated => .existence q negated
  | .custom template args => .custom template (eraseArgs drop args)

def erasePredicates (drop : String → Bool) : List Predicate → List Predicate
  | [] => []
  | p :: rest => p.erase drop :: erasePredicates drop rest

end

theorem isLoneGroup_erasePredicates (drop : String → Bool) (ps : List Predicate) :
    isLoneGroup (erasePredicates drop ps) = isLoneGroup ps := by
  match ps with
  | [] => simp only [erasePredicates]
  | [p] => cases p <;> simp only [erasePredicates, Predicate.erase, isLoneGroup]
  | p :: q :: ps =>
      simp only [erasePredicates]
      cases p <;> rfl

/-! ## Documents of erased trees -/

section Documents

variable (e : Exclude)

theorem columnDoc_erase (qualifier : Option String) (name : String) :
    columnDoc .none (qualifier.filter (! e.contains ·)) name = columnDoc e qualifier name := by
  have hnone (q : String) : Exclude.none.contains q = false := rfl
  cases qualifier with
  | none => rfl
  | some q => cases hq : e.contains q <;> simp [columnDoc, Option.filter, hq, hnone]

mutual

theorem Expr.doc_erase : (x : Expr) → (x.erase e.contains).doc .none = x.doc e
  | .literal _ => by simp only [Expr.erase, Expr.doc]
  | .column qualifier name => by
      simp only [Expr.erase, Expr.doc]
      exact columnDoc_erase e qualifier name
  | .computed _ args => by simp only [Expr.erase, Expr.doc, argDocs_erase args]
  | .null => by simp only [Expr.erase, Expr.doc]

theorem Field.doc_erase : (f : Field) → (f.erase e.contains).doc .none = f.doc e
  | ⟨expr, _, _, _, _⟩ => by simp only [Field.erase, Field.doc, Expr.doc_erase expr]

theorem operandDoc_erase :
    (o : Option Field) → operandDoc .none (eraseOperand e.contains o) = operandDoc e o
  | some f => by simp only [eraseOperand, operandDoc, Field.doc_erase f]
  | none => by simp only [eraseOperand, operandDoc]

theorem Arg.doc?_erase : (a : Arg) → (a.erase e.contains).doc? .none = a.doc? e
  | .null | .value _ | .list _ | .table _ | .query _ => by simp only [Arg.erase, Arg.doc?]
  | .field f => by simp only [Arg.erase, Arg.doc?, Field.doc_erase f]
  | .predicate p => by simp only [Arg.erase, Arg.doc?, Predicate.doc_erase false p]

theorem argDocs_erase :
    (args : List Arg) → argDocs .none (eraseArgs e.contains args) = argDocs e args
  | [] => by simp only [eraseArgs, argDocs]
  | a :: args => by simp only [eraseArgs, argDocs, Arg.doc?_erase a, argDocs_erase args]

theorem Predicate.doc_erase (w : Bool) :
    (p : Predicate) → (p.erase e.contains).doc .none w = p.doc e w
  | .unary operand _ => by
      simp only [Predicate.erase, Predicate.doc, operandDoc_erase operand]
  | .binary lhs _ rhs => by
      simp only [Predicate.erase, Predicate.doc, operandDoc_erase lhs, operandDoc_erase rhs]
  | .ternary operand _ low high => by
      simp only [Predicate.erase, Predicate.doc, operandDoc_erase operand, operandDoc_erase low,
        operandDoc_erase high]
  | .group c members t => by
      simp only [Predicate.erase, Predicate.doc, groupDoc_erase c (w || t) members]
  | .negation p => by simp only [Predicate.erase, Predicate.doc, Predicate.doc_erase true p]
  | .existence _ _ => by simp only [Predicate.erase, Predicate.doc]
  | .custom _ args => by simp only [Predicate.erase, Predicate.doc, argDocs_erase args]

theorem groupDoc_erase (c : Connective) (w : Bool) :
    (ps : List Predicate) → groupDoc .none c w (erasePredicates e.contains ps) = groupDoc e c w ps
  | [] => by simp only [erasePredicates, groupDoc]
  | p :: ps => by
      have hp := Predicate.doc_erase false p
      have hps := predicateDocs_erase ps
      simp only [predicateDocs_eq] at hps
      cases hl : isLoneGroup (p :: ps) with
      | true =>
          -- the lone inner group is laid out in the place of the outer one, as it is here
          cases ps with
          | nil =>
              cases p with
              | group i members _ =>
                  simp only [erasePredicates, Predicate.erase, groupDoc_lone,
                    groupDoc_erase i w members]
              | _ => simp [isLoneGroup] at hl
          | cons q ps => simp [isLoneGroup] at hl
      | false =>
          have hr : isLoneGroup (erasePredicates e.contains (p :: ps)) = false := by
            rw [isLoneGroup_erasePredicates, hl]
          rw [groupDoc_of_not_lone hl (by simp),
            groupDoc_of_not_lone hr (by simp [erasePredicates])]
          simp only [erasePredicates, List.map_cons, hp, hps]

theorem predicateDocs_erase :
    (ps : List Predicate) →
      predicateDocs .none (erasePredicates e.contains ps) = predicateDocs e ps
  | [] => by simp only [erasePredicates, predicateDocs]
  | p :: ps => by
      simp only [erasePredicates, predicateDocs, Predicate.doc_erase false p,
        predicateDocs_erase ps]

end

theorem Field.projectionDoc_erase (f : Field) :
    (f.erase e.contains).projectionDoc .none = f.projectionDoc e := by
  cases f
  simp only [Field.erase, Field.projectionDoc, Expr.doc_erase]

end Documents

/-! ## Values -/

namespace Doc

theorem args_seq (ds : List Doc) : (seq ds).render.args = ds.flatMap (·.render.args) := by
  induction ds with
  | nil => simp
  | cons d ds ih =>
      rw [render_seq, List.map_cons, Fragment.concat_cons, Fragment.args_append, ← render_seq, ih,
        List.flatMap_cons]

theorem args_enclosed (o c : String) (d : Doc) : (enclosed o c d).render.args = d.render.args := by
  rw [enclosed]
  cases h : d.vanishes with
  | true => rw [render_eq_empty_of_framed h, render_eq_empty d h]
  | false => simp [render_framed h]

theorem args_follow_text (d : Doc) (s : String) :
    (follow d (.text s)).render.args = d.render.args := by
  rw [follow]
  cases h : d.vanishes with
  | true => rw [render_eq_empty_of_framed h, render_eq_empty d h]
  | false => simp [render_framed h, render_eq_empty _ vanishes_empty]

theorem args_named (d : Doc) (label : Option String) :
    (d.named label).render.args = d.render.args := by
  cases label with
  | none => rfl
  | some s => exact args_follow_text d _

theorem args_orNull (d : Doc) : d.orNull.render.args = d.render.args := by
  rw [orNull, render_orElse]
  cases h : d.vanishes with
  | true => simp [render_eq_empty d h]
  | false => rfl

end Doc

namespace Template

/-- The values of a filled template are those of its arguments, whatever their texts are. -/
theorem args_fill (ms : List Neutral.Mark) {ds ds' : List (Option Doc)}
    (h : ds.map (·.map (·.render.args)) = ds'.map (·.map (·.render.args))) :
    (fill ms ds).map (·.flatMap (·.render.args)) =
      (fill ms ds').map (·.flatMap (·.render.args)) := by
  have hcons {d d' : Doc} {parts parts' : Option (List Doc)}
      (hd : d.render.args = d'.render.args)
      (hparts : parts.map (·.flatMap (·.render.args)) = parts'.map (·.flatMap (·.render.args))) :
      (parts.map (d :: ·)).map (·.flatMap (·.render.args)) =
        (parts'.map (d' :: ·)).map (·.flatMap (·.render.args)) := by
    cases parts <;> cases parts' <;> simp_all
  induction ms generalizing ds ds' with
  | nil => rfl
  | cons m ms ih =>
      cases m with
      | literal c => exact hcons rfl (ih h)
      | slot =>
          cases ds with
          | nil =>
              obtain rfl : ds' = [] := by simpa using h.symm
              rfl
          | cons d ds =>
              obtain ⟨d', ds', rfl⟩ : ∃ d' rest, ds' = d' :: rest := by
                cases ds' with
                | nil => simp at h
                | cons d' rest => exact ⟨d', rest, rfl⟩
              obtain ⟨hd, hds⟩ := List.cons.inj h
              cases d with
              | none =>
                  obtain rfl : d' = none := by simpa using hd.symm
                  rfl
              | some d =>
                  obtain ⟨d', rfl⟩ : ∃ x, d' = some x := by cases d' <;> simp_all
                  exact hcons (by simpa using hd) (ih hds)

theorem args_doc (template : String) {ds ds' : List (Option Doc)}
    (h : ds.map (·.map (·.render.args)) = ds'.map (·.map (·.render.args))) :
    (doc template ds).render.args = (doc template ds').render.args := by
  have hfill := args_fill (Neutral.marks template.toList) h
  unfold doc
  cases hp : fill (Neutral.marks template.toList) ds with
  | none =>
      rw [hp] at hfill
      rw [Option.map_eq_none_iff.mp hfill.symm]
  | some parts =>
      rw [hp] at hfill
      obtain ⟨parts', hp', hparts⟩ := Option.map_eq_some_iff.mp hfill.symm
      rw [hp']
      simp only [Doc.args_seq, hparts]

end Template

section Values

variable (e e' : Exclude)

theorem args_columnDoc (qualifier : Option String) (name : String) :
    (columnDoc e qualifier name).render.args = [] := by
  unfold columnDoc
  split
  · split <;> simp
  · simp

mutual

theorem Expr.args_doc : (x : Expr) → (x.doc e).render.args = (x.doc e').render.args
  | .literal _ | .null => by simp only [Expr.doc]
  | .column _ _ => by simp only [Expr.doc, args_columnDoc]
  | .computed template args => by
      simp only [Expr.doc]
      exact Template.args_doc template (args_argDocs args)

theorem Field.args_doc : (f : Field) → (f.doc e).render.args = (f.doc e').render.args
  | ⟨expr, _, _, _, _⟩ => by simp only [Field.doc, Doc.args_follow_text, Expr.args_doc expr]

theorem args_operandDoc :
    (o : Option Field) → (operandDoc e o).render.args = (operandDoc e' o).render.args
  | some f => by simp only [operandDoc, Doc.args_orNull, Field.args_doc f]
  | none => by simp only [operandDoc]

theorem Arg.args_doc? :
    (a : Arg) → (a.doc? e).map (·.render.args) = (a.doc? e').map (·.render.args)
  | .null | .value _ | .list _ | .table _ | .query _ => by simp only [Arg.doc?]
  | .field f => by simp only [Arg.doc?, Option.map_some, Field.args_doc f]
  | .predicate p => by simp only [Arg.doc?, Option.map_some, Predicate.args_doc false p]

theorem args_argDocs :
    (args : List Arg) → (argDocs e args).map (·.map (·.render.args)) =
      (argDocs e' args).map (·.map (·.render.args))
  | [] => by simp only [argDocs]
  | a :: args => by simp only [argDocs, List.map_cons, Arg.args_doc? a, args_argDocs args]

theorem Predicate.args_doc (w : Bool) :
    (p : Predicate) → (p.doc e w).render.args = (p.doc e' w).render.args
  | .unary operand _ => by
      simp only [Predicate.doc, Doc.args_seq, List.flatMap_cons, args_operandDoc operand]
  | .binary lhs _ rhs => by
      simp only [Predicate.doc, Doc.args_seq, List.flatMap_cons, args_operandDoc lhs,
        args_operandDoc rhs]
  | .ternary operand _ low high => by
      simp only [Predicate.doc, Doc.args_seq, List.flatMap_cons, args_operandDoc operand,
        args_operandDoc low, args_operandDoc high]
  | .group c members t => by simp only [Predicate.doc, args_groupDoc c (w || t) members]
  | .negation p => by simp only [Predicate.doc, Doc.args_enclosed, Predicate.args_doc true p]
  | .existence _ _ => by simp only [Predicate.doc]
  | .custom template args => by
      simp only [Predicate.doc]
      exact Template.args_doc template (args_argDocs args)

theorem args_groupDoc (c : Connective) (w : Bool) :
    (ps : List Predicate) → (groupDoc e c w ps).render.args = (groupDoc e' c w ps).render.args
  | [] => by simp only [groupDoc]
  | p :: ps => by
      have hp := Predicate.args_doc false p
      have hps := args_predicateDocs ps
      simp only [predicateDocs_eq] at hps
      cases hl : isLoneGroup (p :: ps) with
      | true =>
          cases ps with
          | nil =>
              cases p with
              | group i members _ => simp only [groupDoc_lone, args_groupDoc i w members]
              | _ => simp [isLoneGroup] at hl
          | cons q ps => simp [isLoneGroup] at hl
      | false =>
          rw [groupDoc_of_not_lone hl (by simp), groupDoc_of_not_lone hl (by simp)]
          simp only [Doc.args_joined, List.map_cons, List.flatMap_cons, hp, hps]

theorem args_predicateDocs :
    (ps : List Predicate) → (predicateDocs e ps).flatMap (·.render.args) =
      (predicateDocs e' ps).flatMap (·.render.args)
  | [] => by simp only [predicateDocs]
  | p :: ps => by
      simp only [predicateDocs, List.flatMap_cons, Predicate.args_doc false p,
        args_predicateDocs ps]

end

theorem Field.args_projectionDoc (f : Field) :
    (f.projectionDoc e).render.args = (f.projectionDoc e').render.args := by
  cases f
  simp only [Field.projectionDoc, Doc.args_named, Expr.args_doc e e']

end Values

/-! ## Texts -/

namespace Exclude

/-- To exclude qualifiers is to erase them outside the statements and tables of a tree. So it never
changes the values, and it does not matter how the entries are ordered, repeated or written. -/
theorem erases_qualifiers (e e' : Exclude) :
    (∀ f : Field,
      f.render e = (f.erase fun q => e.Names q).render .none ∧
      f.renderProjection e = (f.erase fun q => e.Names q).renderProjection .none ∧
      (f.render e).args = (f.render e').args ∧
      (f.renderProjection e).args = (f.renderProjection e').args) ∧
    (∀ p : Predicate,
      p.render e = (p.erase fun q => e.Names q).render .none ∧
      p.renderTop e = (p.erase fun q => e.Names q).renderTop .none ∧
      (p.render e).args = (p.render e').args ∧
      (p.renderTop e).args = (p.renderTop e').args) ∧
    (∀ (drop : String → Bool) (q : Query) (t : TableSource) (f : Field) (negated : Bool),
      (Arg.query q).erase drop = .query q ∧
      (Arg.table t).erase drop = .table t ∧
      (Predicate.existence q negated).erase drop = .existence q negated ∧
      (f.inQuery q).erase drop = (f.erase drop).inQuery q ∧
      (f.notInQuery q).erase drop = (f.erase drop).notInQuery q) ∧
    (e.Alike e' →
      (∀ f : Field, f.render e = f.render e' ∧ f.renderProjection e = f.renderProjection e') ∧
      ∀ p : Predicate, p.render e = p.render e' ∧ p.renderTop e = p.renderTop e') := by
  simp only [← contains_eq, Field.render, Field.renderProjection, Predicate.render,
    Predicate.renderTop]
  refine ⟨fun f => ?_, fun p => ?_, fun drop q t f negated => ?_, fun h => ?_⟩
  · exact ⟨by rw [f.doc_erase e], by rw [f.projectionDoc_erase e], f.args_doc e e',
      f.args_projectionDoc e e'⟩
  · exact ⟨by rw [p.doc_erase e], by rw [p.doc_erase e], p.args_doc e e' false,
      p.args_doc e e' true⟩
  · simp only [Arg.erase, Predicate.erase, Field.inQuery, Field.notInQuery, eraseArgs, and_self]
  · refine ⟨fun f => ?_, fun p => ?_⟩
    · rw [← f.doc_erase e, ← f.doc_erase e', ← f.projectionDoc_erase e,
        ← f.projectionDoc_erase e', h.contains_eq]
      exact ⟨rfl, rfl⟩
    · rw [← p.doc_erase e, ← p.doc_erase e', ← p.doc_erase e, ← p.doc_erase e', h.contains_eq]
      exact ⟨rfl, rfl⟩

def listedOrders : Query :=
  .select ((Select.new.run .empty).1.columns [.qualified "orders" "id" .number])

def ordersOfBuyer : Predicate :=
  .all [(Field.qualified "orders" "buyer" .number).eq (.qualified "u" "id" .number),
    (Field.qualified "orders" "id" .number).inQuery listedOrders]

theorem erases_qualifiers_of_orders :
    (⟨["u", "orders."]⟩ : Exclude).Alike ⟨["orders", "u.", "u"]⟩ ∧
    ordersOfBuyer.render ⟨["u", "orders."]⟩ = ordersOfBuyer.render ⟨["orders", "u.", "u"]⟩ ∧
    (ordersOfBuyer.render ⟨["u", "orders."]⟩).sql =
      "(buyer = id AND id IN (SELECT orders.id))" := by
  have halike : (⟨["u", "orders."]⟩ : Exclude).Alike ⟨["orders", "u.", "u"]⟩ := by decide
  obtain ⟨-, -, -, hsame⟩ := erases_qualifiers ⟨["u", "orders."]⟩ ⟨["orders", "u.", "u"]⟩
  exact ⟨halike, ((hsame halike).2 ordersOfBuyer).1, by rfl⟩

end Exclude

end SqlCompose
