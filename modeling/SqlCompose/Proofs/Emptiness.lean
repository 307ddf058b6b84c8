import SqlCompose.Query
import SqlCompose.Proofs.Layout

/-!
# Conditions without text

A condition may be left with nothing to say: an empty list, an empty group, a template whose only
argument is empty. Which ones are is told from the tree, without a look at the text: `vacuous`. A
`WHERE` clause of vacuous conditions is the one that is left out.
-/

namespace SqlCompose

/-! ## Templates -/

/-- Whether a template with its arguments comes to nothing. It does if an argument in use has no
content. It does also if it is made of slots only and every one of them gets an empty argument; a
slot without an argument is `NULL`. -/
def Template.vacuous (template : String) (args : List (Option Bool)) : Bool :=
  let marks := Neutral.marks template.toList
  let used := args.take (marks.count .slot)
  used.any (·.isNone) ||
    (marks.all (· == .slot) && marks.length ≤ args.length && used.all (· == some true))

namespace Template

theorem fill_eq_none_iff (ms : List Neutral.Mark) (docs : List (Option Doc)) :
    fill ms docs = none ↔ (docs.take (ms.count .slot)).any (·.isNone) = true := by
  induction ms generalizing docs with
  | nil => simp [fill]
  | cons m ms ih =>
      cases m with
      | literal c => simp [fill, ih]
      | slot =>
          cases docs with
          | nil => simp [fill, ih]
          | cons d docs => cases d <;> simp [fill, ih]

theorem all_vanishes_of_fill {ms : List Neutral.Mark} {docs : List (Option Doc)} {parts : List Doc}
    (h : fill ms docs = some parts) :
    parts.all Doc.vanishes = (ms.all (· == .slot) && decide (ms.length ≤ docs.length) &&
      (docs.take (ms.count .slot)).all (·.map Doc.vanishes == some true)) := by
  induction ms generalizing docs parts with
  | nil =>
      obtain rfl : parts = [] := by simpa [fill] using h.symm
      simp
  | cons m ms ih =>
      cases m with
      | literal c =>
          obtain ⟨rest, _, rfl⟩ := by simpa [fill] using h
          have hc : (String.singleton c).isEmpty = false := by
            rw [Bool.eq_false_iff, Ne, String.isEmpty_iff, ← String.toList_eq_nil_iff]
            simp
          simp [hc]
      | slot =>
          cases docs with
          | nil =>
              obtain ⟨rest, _, rfl⟩ := by simpa [fill] using h
              simp
          | cons d docs =>
              cases d with
              | none => simp [fill] at h
              | some d =>
                  obtain ⟨rest, hrest, rfl⟩ := by simpa [fill] using h
                  simp [ih hrest, Bool.and_left_comm]

/-- A template is laid out as nothing exactly if it is vacuous. -/
theorem vanishes_doc (template : String) (docs : List (Option Doc)) :
    (doc template docs).vanishes = vacuous template (docs.map (·.map Doc.vanishes)) := by
  have hany (ds : List (Option Doc)) :
      (ds.map (·.map Doc.vanishes)).any (·.isNone) = ds.any (·.isNone) := by
    simp [List.any_map, Function.comp_def]
  have hnone := fill_eq_none_iff (Neutral.marks template.toList) docs
  rw [doc, vacuous]
  simp only [← List.map_take, hany, List.all_map, List.length_map]
  cases h : fill (Neutral.marks template.toList) docs with
  | none => simp [hnone.mp h]
  | some parts =>
      rw [h] at hnone
      rw [Doc.vanishes_seq, all_vanishes_of_fill h]
      simp only [reduceCtorEq, false_iff, Bool.not_eq_true] at hnone
      rw [hnone]
      rfl

end Template

/-! ## Vacuous conditions -/

mutual

def Expr.vacuous : Expr → Bool
  | .literal _ => false
  | .column qualifier name => qualifier.isNone && name.isEmpty
  | .computed template args => Template.vacuous template (argsVacuous args)
  | .null => false

def Field.vacuous : Field → Bool
  | ⟨expr, _, _, _, _⟩ => expr.vacuous

/-- Whether an argument is empty; nothing for a list without values, which has no content at all. -/
def Arg.vacuous? : Arg → Option Bool
  | .null => some false
  | .value _ => some false
  | .list vs => if vs.isEmpty then none else some false
  | .field f => some f.vacuous
  | .predicate p => some p.vacuous
  | .table t => some t.vacuous
  | .query _ => some false

def argsVacuous : List Arg → List (Option Bool)
  | [] => []
  | a :: rest => a.vacuous? :: argsVacuous rest

/-- Whether a condition says nothing. Comparisons and tests for rows always say something. -/
def Predicate.vacuous : Predicate → Bool
  | .unary _ _ => false
  | .binary _ _ _ => false
  | .ternary _ _ _ _ => false
  | .group _ members _ => allVacuous members
  | .negation p => p.vacuous
  | .existence _ _ => false
  | .custom template args => Template.vacuous template (argsVacuous args)

def allVacuous : List Predicate → Bool
  | [] => true
  | p :: rest => p.vacuous && allVacuous rest

def CustomTable.vacuous : CustomTable → Bool
  | ⟨template, args, _⟩ => Template.vacuous template (argsVacuous args)

def TableSource.vacuous : TableSource → Bool
  | .base t => t.inDefaultSchema && t.name.isEmpty
  | .cte c => c.name.isEmpty
  | .reference c => c.name.isEmpty
  | .query _ => false
  | .custom t => t.vacuous

end

theorem allVacuous_eq (ps : List Predicate) : allVacuous ps = ps.all Predicate.vacuous := by
  induction ps with
  | nil => simp only [allVacuous, List.all_nil]
  | cons p ps ih => simp only [allVacuous, ih, List.all_cons]

@[simp] theorem vanishes_operandDoc (e : Exclude) (o : Option Field) :
    (operandDoc e o).vanishes = false := by
  cases o <;> simp [operandDoc]

theorem BaseTable.vanishes_doc (t : BaseTable) :
    t.doc.vanishes = (t.inDefaultSchema && t.name.isEmpty) := by
  unfold BaseTable.doc
  split <;> simp [*]

mutual

theorem Expr.vanishes_doc : (x : Expr) → (x.doc .none).vanishes = x.vacuous
  | .literal v => by simp only [Expr.doc, Expr.vacuous, Doc.vanishes_bind]
  | .column qualifier name => by
      simp only [Expr.doc, Expr.vacuous]
      cases qualifier <;> simp [columnDoc, Exclude.contains, Exclude.none]
  | .computed template args => by
      simp only [Expr.doc, Expr.vacuous, Template.vanishes_doc, argDocs_vacuous args]
  | .null => by simp [Expr.doc, Expr.vacuous]

theorem Field.vanishes_doc : (f : Field) → (f.doc .none).vanishes = f.vacuous
  | ⟨expr, _, _, _, _⟩ => by
      simp only [Field.doc, Field.vacuous, Doc.vanishes_follow, Expr.vanishes_doc expr]

theorem Arg.vanishes_doc? : (a : Arg) → (a.doc? .none).map Doc.vanishes = a.vacuous?
  | .null => by simp [Arg.doc?, Arg.vacuous?]
  | .value v => by simp [Arg.doc?, Arg.vacuous?]
  | .list vs => by
      cases vs <;> simp [Arg.doc?, Arg.vacuous?]
  | .field f => by simp only [Arg.doc?, Arg.vacuous?, Option.map_some, Field.vanishes_doc f]
  | .predicate p => by
      simp only [Arg.doc?, Arg.vacuous?, Option.map_some, Predicate.vanishes_doc p]
  | .table t => by simp only [Arg.doc?, Arg.vacuous?, Option.map_some, TableSource.vanishes_doc t]
  | .query q => by simp only [Arg.doc?, Arg.vacuous?, Option.map_some, q.doc_not_vanishes]

theorem argDocs_vacuous : (args : List Arg) →
    (argDocs .none args).map (·.map Doc.vanishes) = argsVacuous args
  | [] => by simp only [argDocs, argsVacuous, List.map_nil]
  | a :: rest => by
      simp only [argDocs, argsVacuous, List.map_cons, Arg.vanishes_doc? a, argDocs_vacuous rest]

theorem Predicate.vanishes_doc : (p : Predicate) → (w : Bool) →
    (p.doc .none w).vanishes = p.vacuous
  | .unary _ _, _ => by simp [Predicate.doc, Predicate.vacuous]
  | .binary _ _ _, _ => by simp [Predicate.doc, Predicate.vacuous]
  | .ternary _ _ _ _, _ => by simp [Predicate.doc, Predicate.vacuous]
  | .group c members t, w => by
      simp only [Predicate.doc, Predicate.vacuous, groupDoc_vacuous members c (w || t)]
  | .negation p, _ => by
      simp only [Predicate.doc, Predicate.vacuous, Doc.vanishes_enclosed, Predicate.vanishes_doc p]
  | .existence q _, _ => by
      simp only [Predicate.doc, Predicate.vacuous, Doc.vanishes_enclosed, q.doc_not_vanishes]
  | .custom template args, _ => by
      simp only [Predicate.doc, Predicate.vacuous, Template.vanishes_doc, argDocs_vacuous args]

theorem groupDoc_vacuous : (ps : List Predicate) → (c : Connective) → (w : Bool) →
    (groupDoc .none c w ps).vanishes = allVacuous ps
  | [], c, w => by simp [allVacuous]
  | p :: rest, c, w => by
      have hp := Predicate.vanishes_doc p
      have hrest := predicateDocs_vacuous rest
      cases hl : isLoneGroup (p :: rest) with
      | true =>
          cases rest with
          | nil =>
              cases p with
              | group i members _ =>
                  simp only [groupDoc_lone, allVacuous, Predicate.vacuous, Bool.and_true,
                    groupDoc_vacuous members i w]
              | _ => simp [isLoneGroup] at hl
          | cons q rest => simp [isLoneGroup] at hl
      | false =>
          rw [groupDoc_of_not_lone hl (by simp), Doc.vanishes_joined, allVacuous, ← hrest]
          simp [hp]

theorem predicateDocs_vacuous : (ps : List Predicate) →
    (predicateDocs .none ps).all Doc.vanishes = allVacuous ps
  | [] => by simp only [predicateDocs, allVacuous, List.all_nil]
  | p :: rest => by
      simp only [predicateDocs, allVacuous, List.all_cons, Predicate.vanishes_doc p,
        predicateDocs_vacuous rest]

theorem CustomTable.vanishes_doc : (t : CustomTable) → t.doc.vanishes = t.vacuous
  | ⟨template, args, _⟩ => by
      simp only [CustomTable.doc, CustomTable.vacuous, Template.vanishes_doc, argDocs_vacuous args]

theorem TableSource.vanishes_doc : (t : TableSource) → t.doc.vanishes = t.vacuous
  | .base t => by simp only [TableSource.doc, TableSource.vacuous, BaseTable.vanishes_doc]
  | .cte c => by simp only [TableSource.doc, TableSource.vacuous, Doc.vanishes_text]
  | .reference c => by simp only [TableSource.doc, TableSource.vacuous, Doc.vanishes_text]
  | .query q => by
      simp only [TableSource.doc, TableSource.vacuous, Doc.vanishes_parens, q.doc_not_vanishes]
  | .custom t => by simp only [TableSource.doc, TableSource.vacuous, CustomTable.vanishes_doc t]

end

end SqlCompose
