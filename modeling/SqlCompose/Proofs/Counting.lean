import SqlCompose.Proofs.CallOrder
import SqlCompose.Proofs.Literal

/-!
# Counting rows

Which rows a `SELECT` has is settled before they are put in order and before some of them are taken
and locked. So a count is the same whatever was called for the order, the page and the lock. The
rows of tables are counted in their place; grouped or distinct rows are counted from outside.
-/

namespace SqlCompose.Select

/-! ## Calls that leave the rows -/

/-- Calls for the order, the page and the lock leave everything else as it was. -/
theorem unordered_run {c : Edit} (h : c.group ∈ [some .orderBy, some .page, some .lock])
    (s : Select) (n : Naming) : ((c.run s).run n).1.unordered = s.unordered := by
  cases c with
  | addOrder _ => rfl
  | takeRows _ => rfl
  | skipRows _ => rfl
  | paginate _ _ => rfl
  | lockRows _ => rfl
  | lockTables _ => rfl
  | whenLocked _ => rfl
  | _ => simp [Edit.group] at h

theorem unordered_foldlM {cs : List Edit}
    (h : ∀ c ∈ cs, c.group ∈ [some .orderBy, some .page, some .lock]) (s : Select) (n : Naming) :
    ((cs.foldlM Edit.run s).run n).1.unordered = s.unordered := by
  induction cs generalizing s n with
  | nil => rfl
  | cons c cs ih =>
      obtain ⟨hc, hcs⟩ := List.forall_mem_cons.mp h
      rw [List.foldlM_cons, ← unordered_run hc s n]
      exact ih hcs _ _

/-- A count looks at nothing that `unordered` drops. -/
theorem countQuery_unordered (s : Select) : s.unordered.countQuery = s.countQuery := rfl

/-! ## The select list -/

/-- A select list of one field is what is written for that field. -/
theorem render_selectList {f : Field} {d : Doc} (hf : (f.projectionDoc .none).render = d.render)
    (hd : d.vanishes = false) :
    (Doc.orElse (.list (projectionDocs [f])) (.text "*")).render = d.render := by
  have hlist : (Doc.list (projectionDocs [f])).render = d.render := by
    rw [projectionDocs_eq, List.map_singleton, Doc.render_list_singleton, hf]
  rw [Doc.render_orElse, Doc.vanishes, hlist, ← Doc.vanishes, hd, if_neg Bool.false_ne_true]

/-- Another select list changes one clause. -/
theorem shown_clauses_columns (s : Select) {f : Field} {d : Doc}
    (hf : (f.projectionDoc .none).render = d.render) (hd : d.vanishes = false) :
    Doc.shown ((s.columns [f]).clauses.map Clause.doc) =
      Doc.shown ((s.clauses.set 1 (.head "SELECT " [s.distinct.doc, d])).map Clause.doc) := by
  have hhead : (Clause.head "SELECT " [s.distinct.doc,
        .orElse (.list (projectionDocs [f])) (.text "*")]).doc.render =
      (Clause.head "SELECT " [s.distinct.doc, d]).doc.render := by
    simp only [Clause.head, Doc.render_seq, List.map_cons, render_selectList hf hd]
  simp only [Doc.shown, Select.clauses, columns, List.set, List.map_cons, hhead]

/-- A statement of its own with a select list and tables. -/
def bare (fs : List Field) (ts : List TableSource) (d : Dialect) (nested : Bool)
    (n : Naming) : Select where
  ctes := []
  distinct := .off
  projections := fs
  sources := ts
  joins := []
  filters := []
  groupBy := []
  having := []
  orderBy := []
  limit := none
  offset := none
  lock := none
  label := none
  namer := ⟨n.namers.length⟩
  nested := nested
  dialect := d

theorem render_bare {f : Field} {d : Doc} (hf : (f.projectionDoc .none).render = d.render)
    (hd : d.vanishes = false) (ts : List TableSource) (dialect : Dialect) (nested : Bool)
    (n : Naming) :
    (Query.select (bare [f] ts dialect nested n)).doc.render =
      (Doc.clauses
        [.seq [.text "SELECT ", d], .keyword "FROM" (.list (sourceDocs ts))]).render := by
  have hlist := shown_clauses_columns (bare [] ts dialect nested n) hf hd
  have hwith : (Doc.keyword "WITH" (.list [])).render = .empty := Doc.render_eq_empty _ (by simp)
  have hfull : (bare [] ts dialect nested n).columns [f] = bare [f] ts dialect nested n := rfl
  rw [render_clauses, Doc.render_clauses, Doc.render_clauses, ← hfull, hlist, Clause.shown_take 3]
  · simp [Doc.shown, bare, Select.clauses, Clause.keyword, Clause.head, withDoc, Distinct.doc,
      Doc.empty, hwith]
  · simp [bare, Select.clauses, Clause.keyword, Clause.lock, Clause.joins, filterDoc, countDoc,
      Doc.bound, lockDoc]

theorem render_countAll :
    (Function.countAll.projectionDoc .none).render = (Doc.text "COUNT(*)").render := by rfl

/-! ## Counting in place -/

theorem regroups_eq_false {s : Select} :
    s.regroups = false ↔ s.groupBy = [] ∧ s.having = [] ∧ s.distinct = .off := by
  cases h : s.distinct <;> simp [regroups, h]

theorem run_countQuery_in_place {s : Select} (h : s.regroups = false) (n : Naming) :
    (s.countQuery.run n).1 = s.unordered.columns [Function.countAll] := by
  have hinner : s.unordered.regroups = false := h
  rw [countQuery, if_neg (by simp [hinner])]
  rfl

theorem sentAs_count_in_place {s : Select} (h : s.regroups = false) :
    SentAs (.select (s.unordered.columns [Function.countAll]))
      ((s.clauses.set 1 (.head "SELECT " [.text "COUNT(*)"])).take 5) := by
  obtain ⟨hgroup, hhaving, hdistinct⟩ := regroups_eq_false.mp h
  have hhead : (Clause.head "SELECT " [s.distinct.doc, .text "COUNT(*)"]).doc.render =
      (Clause.head "SELECT " [.text "COUNT(*)"]).doc.render := by
    simp [Clause.head, hdistinct, Distinct.doc, Doc.empty]
  refine sentAs_of_shown ?_ fun c hc => ?_
  · rw [shown_clauses_columns _ render_countAll (by simp), Clause.shown_take 5]
    · simp [Doc.shown, Select.clauses, unordered, hhead]
    · simp [Select.clauses, unordered, Clause.keyword, Clause.lock, hgroup, hhaving, filterDoc,
        countDoc, Doc.bound, lockDoc]
  · exact s.begins_clauses_set (Clause.begins_head (by decide) _) 1 c (List.mem_of_mem_take hc)

/-- Without order, page and lock a statement is sent as its first clauses. -/
theorem sentAs_unordered (s : Select) : SentAs (.select s.unordered) (s.clauses.take 7) := by
  refine sentAs_of_shown ?_ fun c hc => s.begins_clauses c (List.mem_of_mem_take hc)
  rw [Clause.shown_take 7]
  · rfl
  · simp [Select.clauses, unordered, Clause.keyword, Clause.lock, countDoc, Doc.bound, lockDoc]

/-! ## Counting from outside -/

/-- A statement of its own names its first subquery `sub1`, whatever else has been named. -/
theorem draw_first (n : Naming) :
    ((Naming.draw ⟨n.namers.length⟩).run ⟨n.namers ++ [.subqueries]⟩).1 = "sub1" := by
  have hnamer : (n.namers ++ [.subqueries])[n.namers.length]? = some (.counted "sub" 0) := by
    simp [Namer.subqueries]
  rw [Naming.run_draw hnamer]
  rfl

theorem run_countQuery_from_outside {s : Select} (h : s.regroups = true) (n : Naming) :
    (s.countQuery.run n).1 =
      bare [Function.countAll] [.query ((Query.select s.unordered.asNested).labelled "sub1")]
        s.dialect s.nested n := by
  have hinner : s.unordered.regroups = true := h
  rw [countQuery, if_pos hinner, ← draw_first n]
  rfl

/-- A statement under a name, as the only table. -/
theorem render_from_statement (q : Query) (label : String) :
    (Doc.keyword "FROM" (.list (sourceDocs [.query (q.labelled label)]))).render =
      (Fragment.ident "FROM (").append (q.doc.render.append (.ident (") AS " ++ label))) := by
  have hparens : q.doc.parens.vanishes = false := by simp [q.doc_not_vanishes]
  have hsource : (Doc.list (sourceDocs [.query (q.labelled label)])).render =
      (Fragment.ident "(").append (q.doc.render.append (.ident (") AS " ++ label))) := by
    have hclose : Fragment.ident (") AS " ++ label) =
        (Fragment.ident ")").append (.ident (" AS " ++ label)) := by
      rw [← Fragment.ident_append, ← String.append_assoc]
      rfl
    rw [sourceDocs_eq, List.map_singleton, Doc.render_list_singleton, TableSource.label,
      TableSource.doc, Query.doc_labelled, Query.label_labelled, Place.render_named hparens,
      Doc.parens, Doc.enclosed, Doc.render_framed q.doc_not_vanishes, hclose]
    simp [Fragment.append_assoc]
  have hopen : Fragment.ident "FROM (" = (Fragment.ident "FROM ").append (.ident "(") := by rfl
  have hshown : (Doc.list (sourceDocs [.query (q.labelled label)])).vanishes = false := by
    rw [Doc.vanishes, hsource]
    simp
  rw [Doc.keyword, Doc.enclosed, Doc.render_framed hshown, hsource, hopen]
  simp [Fragment.append_assoc]

theorem render_count_from_outside {s : Select} (h : s.regroups = true) (n : Naming) :
    (Query.select (s.countQuery.run n).1).doc.render =
      (Fragment.ident "SELECT COUNT(*) FROM (").append
        ((Query.select s.unordered).doc.render.append (.ident ") AS sub1")) := by
  have hinner : (Query.select s.unordered.asNested).doc = (Query.select s.unordered).doc := by
    simp only [Query.doc, asNested, unordered, Select.doc]
  have hfrom := render_from_statement (.select s.unordered.asNested) "sub1"
  have hwords : Fragment.ident "SELECT COUNT(*) FROM (" =
      (((Fragment.ident "SELECT ").append (.ident "COUNT(*)")).append (.raw " ")).append
        (.ident "FROM (") := by rfl
  rw [hinner] at hfrom
  rw [run_countQuery_from_outside h, render_bare render_countAll (by simp), Doc.render_clauses,
    hwords]
  simp [Doc.shown, hfrom, Fragment.append_assoc, -sourceDocs_eq]

theorem build_count_from_outside {s : Select} (h : s.regroups = true) (n : Naming) :
    (Query.select (s.countQuery.run n).1).build =
      ⟨"SELECT COUNT(*) FROM (" ++ (Query.select s.unordered).build.sql ++ ") AS sub1",
        (Query.select s.unordered).build.args, s.dialect⟩ := by
  have hdialect : (Query.select (s.countQuery.run n).1).dialect = s.dialect := by
    rw [run_countQuery_from_outside h]
    rfl
  rw [Query.build, hdialect, Query.body, render_count_from_outside h,
    Dialect.renumber_between _ _ _ (by simp)]
  rfl

/-! ## All counts -/

/-- What a count is does not depend on the names that were drawn before. -/
theorem build_countQuery_congr (s : Select) (n m : Naming) :
    (Query.select (s.countQuery.run n).1).build = (Query.select (s.countQuery.run m).1).build := by
  cases h : s.regroups with
  | false => rw [run_countQuery_in_place h, run_countQuery_in_place h]
  | true => rw [build_count_from_outside h, build_count_from_outside h]

/-- A count has one row, and is counted as it stands. -/
theorem countQuery_countQuery (s : Select) (n m : Naming) :
    ((s.countQuery.run n).1.countQuery.run m).1 = (s.countQuery.run n).1 := by
  -- a count has no groups of its own, so it is counted in place
  cases h : s.regroups with
  | false =>
      rw [run_countQuery_in_place h]
      exact run_countQuery_in_place (s := s.unordered.columns _) h m
  | true =>
      rw [run_countQuery_from_outside h]
      exact run_countQuery_in_place rfl m

/-- A count depends on what decides which rows there are. Calls for the order, the page and the lock
do not change it. Without groups and `DISTINCT` it is the statement itself with another select list
and without the clauses for groups, order, page and lock; otherwise it is a count around the whole
statement without the clauses for order, page and lock. The values are those of the clauses that
stay. A count is its own count, and keeps the dialect and the mark of a part. -/
theorem countQuery_of_rows (s : Select) (n : Naming) :
    let c := (s.countQuery.run n).1
    SentAs (.select s) s.clauses ∧
    (∀ cs : List Edit, (∀ e ∈ cs, e.group ∈ [some .orderBy, some .page, some .lock]) →
      ∀ m k, let t := ((cs.foldlM Edit.run s).run m).1
        (Query.select (t.countQuery.run k).1).build = (Query.select c).build) ∧
    (s.groupBy = [] ∧ s.having = [] ∧ s.distinct = .off →
      SentAs (.select c) ((s.clauses.set 1 (.head "SELECT " [.text "COUNT(*)"])).take 5)) ∧
    (¬ (s.groupBy = [] ∧ s.having = [] ∧ s.distinct = .off) →
      SentAs (.select s.unordered) (s.clauses.take 7) ∧
      (Query.select c).build =
        ⟨"SELECT COUNT(*) FROM (" ++ (Query.select s.unordered).build.sql ++ ") AS sub1",
          (Query.select s.unordered).build.args, s.dialect⟩) ∧
    (∀ m, (Query.select (c.countQuery.run m).1).build = (Query.select c).build) ∧
    c.dialect = s.dialect ∧ c.nested = s.nested := by
  refine ⟨s.sentAs_clauses, fun cs hcs m k => ?_, fun h => ?_, fun h => ?_, fun m => ?_, ?_⟩
  · show (Query.select ((((cs.foldlM Edit.run s).run m).1.countQuery).run k).1).build = _
    rw [← countQuery_unordered, unordered_foldlM hcs, countQuery_unordered]
    exact build_countQuery_congr s k n
  · have hin : s.regroups = false := regroups_eq_false.mpr h
    show SentAs (.select (s.countQuery.run n).1) _
    rw [run_countQuery_in_place hin]
    exact sentAs_count_in_place hin
  · rw [← regroups_eq_false, Bool.not_eq_false] at h
    exact ⟨s.sentAs_unordered, build_count_from_outside h n⟩
  · rw [countQuery_countQuery]
  · cases h : s.regroups with
    | false =>
        rw [run_countQuery_in_place h]
        exact ⟨rfl, rfl⟩
    | true =>
        rw [run_countQuery_from_outside h]
        exact ⟨rfl, rfl⟩

def userIds : Select :=
  { (Select.new.run .empty).1 with
    projections := [.qualified "u" "id" .number], sources := [users], limit := some 5 }

def pageOfUsers : List Edit :=
  [.addOrder (.qualified "u" "id" .number), .paginate 3 10, .lockRows .update]

theorem countQuery_of_users :
    (Query.select ((pageOfUsers.foldlM Edit.run userIds).run .empty).1).build.sql =
      "SELECT u.id FROM users AS u ORDER BY u.id LIMIT $1 OFFSET $2 FOR UPDATE" ∧
    (Query.select
        (((pageOfUsers.foldlM Edit.run userIds).run .empty).1.countQuery.run .empty).1).build.sql =
      "SELECT COUNT(*) FROM users AS u" ∧
    SentAs (.select (userIds.countQuery.run .empty).1)
      ((userIds.clauses.set 1 (.head "SELECT " [.text "COUNT(*)"])).take 5) ∧
    (Query.select (userIds.distinctRows.countQuery.run .empty).1).build.sql =
      "SELECT COUNT(*) FROM (SELECT DISTINCT u.id FROM users AS u) AS sub1" := by
  obtain ⟨-, hcalls, hplace, -⟩ := countQuery_of_rows userIds .empty
  obtain ⟨-, -, -, houtside, -⟩ := countQuery_of_rows userIds.distinctRows .empty
  refine ⟨by rfl, ?_, hplace ⟨rfl, rfl, rfl⟩, ?_⟩
  · rw [hcalls pageOfUsers (by simp [pageOfUsers, Edit.group])]
    rfl
  · rw [(houtside (by simp [distinctRows])).2]
    rfl

end SqlCompose.Select
