import SqlCompose.Proofs.Counting

/-!
# Asking whether there are rows

Whether a `SELECT` has rows is asked around the whole statement, with `1` in the place of its select
list. Everything else stays, also the order; and its terms may have been names of the select list
that is gone, or have to be on it because the rows are distinct.
-/

namespace SqlCompose

/-! ## Terms of an order -/

/-- The name of a column without a table. -/
def Field.unqualified? (f : Field) : Option String :=
  match f.expr with
  | .column none name => some name
  | _ => none

namespace Select

/-- What the rows are put in order by. A term that comes to nothing is not written. -/
def orderTerms (s : Select) : List Field := s.orderBy.filter fun f => !(f.expr.doc .none).vanishes

/-- Every column without a table is named by the select list. -/
def NamesOrder (s : Select) : Prop :=
  ∀ f ∈ s.orderTerms, ∀ name, f.unqualified? = some name → ∃ p ∈ s.projections, p.outputName = name

/-- Every term is on the select list, by its name or with the same text and values. -/
def ListsOrder (s : Select) : Prop :=
  ∀ f ∈ s.orderTerms, ∃ p ∈ s.projections,
    f.unqualified? = some p.outputName ∨ (f.expr.doc .none).render = (p.expr.doc .none).render

/-- The statement that is asked for rows. -/
def asked (s : Select) : Select := { s.selectOne with label := none }

theorem orderTerms_asked (s : Select) : s.asked.orderTerms = s.orderTerms := rfl

theorem ne_empty_of_mem_orderTerms {s : Select} {f : Field} (hf : f ∈ s.orderTerms) {name : String}
    (h : f.unqualified? = some name) : name ≠ "" := by
  obtain ⟨-, htext⟩ := List.mem_filter.mp hf
  obtain ⟨expr, type, label, order, nulls⟩ := f
  cases expr with
  | column qualifier n =>
      cases qualifier with
      | none =>
          obtain rfl : n = name := by simpa [Field.unqualified?] using h
          simpa [Expr.doc, columnDoc] using htext
      | some q => simp [Field.unqualified?] at h
  | _ => simp [Field.unqualified?] at h

theorem mem_projections_asked {s : Select} {p : Field} :
    p ∈ s.asked.projections ↔ p = .raw "1" := List.mem_singleton

theorem render_one : ((Field.raw "1").expr.doc .none).render = .ident "1" := by rfl

/-- The one field that is selected has no name. -/
theorem namesOrder_asked_iff (s : Select) :
    s.asked.NamesOrder ↔ ∀ f ∈ s.orderTerms, f.unqualified? = none := by
  rw [NamesOrder, orderTerms_asked]
  refine forall₂_congr fun f hf => ?_
  constructor
  · intro h
    cases hname : f.unqualified? with
    | none => rfl
    | some name =>
        obtain ⟨p, hp, houtput⟩ := h name hname
        rw [mem_projections_asked.mp hp] at houtput
        exact absurd houtput.symm (ne_empty_of_mem_orderTerms hf hname)
  · intro h name hname
    rw [h] at hname
    cases hname

theorem listsOrder_asked_iff (s : Select) :
    s.asked.ListsOrder ↔ ∀ f ∈ s.orderTerms, (f.expr.doc .none).render = .ident "1" := by
  rw [ListsOrder, orderTerms_asked]
  refine forall₂_congr fun f hf => ?_
  constructor
  · rintro ⟨p, hp, h⟩
    rw [mem_projections_asked.mp hp] at h
    rcases h with hname | htext
    · exact absurd rfl (ne_empty_of_mem_orderTerms hf hname)
    · rw [htext, render_one]
  · intro h
    exact ⟨.raw "1", mem_projections_asked.mpr rfl, .inr (by rw [h, render_one])⟩

/-! ## The statement that asks -/

theorem sentAs_asked (s : Select) :
    SentAs (.select s.asked)
      (s.clauses.set 1 (.head "SELECT " [s.distinct.doc, .text "1"])) := by
  have hone : ((Field.raw "1").projectionDoc .none).render = (Doc.text "1").render := by rfl
  refine sentAs_of_shown ?_ (s.begins_clauses_set (Clause.begins_head (by decide) _) 1)
  exact s.shown_clauses_columns hone (by simp)

theorem run_existsQuery (s : Select) (n : Naming) :
    (s.existsQuery.run n).1 =
      bare [.custom "EXISTS(?)" [.query s.asked.embedded]] [] s.dialect s.nested n := rfl

theorem render_existsQuery (s : Select) (n : Naming) :
    (Query.select (s.existsQuery.run n).1).doc.render =
      (Fragment.ident "SELECT EXISTS(").append
        ((Query.select s.asked).doc.render.append (.ident ")")) := by
  have hinner : s.asked.embedded.doc = (Query.select s.asked).doc := by
    simp only [Query.doc, embedded, asNested, asked, selectOne, columns, Select.doc]
  have hslot (d : Doc) : (Template.doc "EXISTS(?)" [some d]).render =
      (Fragment.ident "EXISTS(").append (d.render.append (.ident ")")) :=
    Template.render_one_slot (fun _ => rfl) d
  have hfield : ((Field.custom "EXISTS(?)" [.query s.asked.embedded]).projectionDoc .none).render =
      (Doc.seq [.text "EXISTS(", (Query.select s.asked).doc, .text ")"]).render := by
    rw [Field.custom, Field.computed, Field.ofExpr, Field.projectionDoc, Doc.named, Expr.doc,
      argDocs_eq, List.map_singleton, Arg.doc?, hinner, hslot]
    simp
  have hwords : Fragment.ident "SELECT EXISTS(" =
      (Fragment.ident "SELECT ").append (.ident "EXISTS(") := by rfl
  rw [run_existsQuery, render_bare hfield (by simp), Doc.render_clauses, hwords]
  have hfrom : (Doc.keyword "FROM" (.list (sourceDocs []))).render = .empty :=
    Doc.render_eq_empty _ (by simp)
  simp [Doc.shown, Fragment.append_assoc, -sourceDocs_eq, hfrom]

theorem build_existsQuery (s : Select) (n : Naming) :
    (Query.select (s.existsQuery.run n).1).build =
      ⟨"SELECT EXISTS(" ++ (Query.select s.asked).build.sql ++ ")",
        (Query.select s.asked).build.args, s.dialect⟩ := by
  have hdialect : (Query.select (s.existsQuery.run n).1).dialect = s.dialect := rfl
  rw [Query.build, hdialect, Query.body, render_existsQuery,
    Dialect.renumber_between _ _ _ (by simp)]
  rfl

/-- The statement that is asked for rows is the whole statement with `1` for its select list: all
other clauses stay, in their order and with their values. So does the order, and its terms are left
without what they meant. A column without a table is on no select list any more, and with distinct
rows nothing but `1` is: the order of such a statement is right only if it has no such term. -/
theorem asked_order_iff (s : Select) (n : Naming) :
    (Query.select (s.existsQuery.run n).1).build =
      ⟨"SELECT EXISTS(" ++ (Query.select s.asked).build.sql ++ ")",
        (Query.select s.asked).build.args, s.dialect⟩ ∧
    SentAs (.select s) s.clauses ∧
    SentAs (.select s.asked) (s.clauses.set 1 (.head "SELECT " [s.distinct.doc, .text "1"])) ∧
    (s.asked.NamesOrder ↔ ∀ f ∈ s.orderTerms, f.unqualified? = none) ∧
    (s.asked.ListsOrder ↔ ∀ f ∈ s.orderTerms, (f.expr.doc .none).render = .ident "1") :=
  ⟨s.build_existsQuery n, s.sentAs_clauses, s.sentAs_asked, s.namesOrder_asked_iff,
    s.listsOrder_asked_iff⟩

/-- A column under a new name, by which the rows are put in order. -/
def renamedIds : Select :=
  { (Select.new.run .empty).1 with
    projections := [(Field.qualified "u" "id" .number).labelled "n"], sources := [users],
    orderBy := [.column "n" .number] }

/-- Distinct rows in the order of their one column. -/
def distinctEmails : Select :=
  { (Select.new.run .empty).1 with
    distinct := .rows, projections := [.qualified "u" "email" .string], sources := [users],
    orderBy := [.qualified "u" "email" .string] }

/-- The order of both statements is right, and neither is any more when they are asked for rows. -/
theorem order_left_dangling :
    renamedIds.NamesOrder ∧ ¬ renamedIds.asked.NamesOrder ∧
    (Query.select (renamedIds.existsQuery.run .empty).1).build.sql =
      "SELECT EXISTS(SELECT 1 FROM users AS u ORDER BY n)" ∧
    distinctEmails.distinct = .rows ∧
    distinctEmails.ListsOrder ∧ ¬ distinctEmails.asked.ListsOrder ∧
    (Query.select (distinctEmails.existsQuery.run .empty).1).build.sql =
      "SELECT EXISTS(SELECT DISTINCT 1 FROM users AS u ORDER BY u.email)" := by
  have hn : renamedIds.orderTerms = [.column "n" .number] := by rfl
  have hemail : distinctEmails.orderTerms = [.qualified "u" "email" .string] := by rfl
  have htext : ((Field.qualified "u" "email" .string).expr.doc .none).sql = "u.email" := by rfl
  refine ⟨?_, ?_, by rfl, rfl, ?_, ?_, by rfl⟩
  · rw [NamesOrder, hn]
    rintro f hf name hname
    rw [List.mem_singleton.mp hf] at hname
    exact ⟨_, List.mem_singleton_self _, Option.some.inj hname⟩
  · rw [namesOrder_asked_iff, hn]
    intro h
    exact absurd (h _ (List.mem_singleton_self _)) (by decide)
  · rw [ListsOrder, hemail]
    intro f hf
    rw [List.mem_singleton.mp hf]
    exact ⟨_, List.mem_singleton_self _, .inr rfl⟩
  · rw [listsOrder_asked_iff, hemail]
    intro h
    rw [Doc.sql, h _ (List.mem_singleton_self _)] at htext
    exact absurd htext (by decide)

end Select

end SqlCompose
