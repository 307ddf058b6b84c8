import SqlCompose.Proofs.Unfiltered

/-!
# Joins without a table to join to

A join needs a table before it. Whether there is one is known only when the tables are rendered: a
table expression may come to nothing. Updates and deletions leave their joins out if no table has
text; a `SELECT` does not ask, and writes joins that have nothing to attach to.
-/

namespace SqlCompose

/-! ## Clauses that follow another -/

theorem Fragment.concat_intersperse_append (s : String) (f g : Fragment)
    (before after : List Fragment) :
    concat ((before ++ f.append ((raw s).append g) :: after).intersperse (raw s)) =
      concat ((before ++ f :: g :: after).intersperse (raw s)) := by
  induction before with
  | nil => cases after <;> simp [append_assoc]
  | cons b before ih =>
      cases before with
      | nil => cases after <;> simp [append_assoc]
      | cons c before =>
          simp only [List.cons_append, List.intersperse_cons_cons, concat_cons] at ih ⊢
          rw [ih]

namespace Doc

theorem render_spaced {e : Doc} (h : e.vanishes = false) :
    (enclosed " " "" e).render = (Fragment.raw " ").append e.render := by
  have hend : Fragment.ident "" = .empty := rfl
  rw [enclosed, render_framed h, render_text, render_text, Fragment.ident_eq_raw (by decide), hend,
    Fragment.append_empty]

/-- What follows a clause after a space is a clause of its own. -/
theorem render_clauses_follow {d : Doc} (hd : d.vanishes = false) (before after : List Doc)
    (e : Doc) :
    (clauses (before ++ follow d (enclosed " " "" e) :: after)).render =
      (clauses (before ++ d :: e :: after)).render := by
  have hfollow : (follow d (enclosed " " "" e)).vanishes = false := by
    rw [vanishes_follow, hd]
  have hfollowed : (follow d (enclosed " " "" e)).render =
      d.render.append (enclosed " " "" e).render := by
    rw [follow, render_framed hd]
    exact Fragment.empty_append _
  have hshown : shown (before ++ d :: e :: after) =
      shown before ++ d.render :: shown (e :: after) := shown_of_not_vanishes hd before (e :: after)
  rw [render_clauses, render_clauses, shown_of_not_vanishes hfollow, hfollowed, hshown]
  cases he : e.vanishes with
  | true =>
      have hspaced : (enclosed " " "" e).vanishes = true := by rw [vanishes_enclosed, he]
      have hrest : shown (e :: after) = shown after := shown_of_vanishes he [] after
      rw [render_eq_empty _ hspaced, Fragment.append_empty, hrest]
  | false =>
      have hrest : shown (e :: after) = e.render :: shown after := shown_of_not_vanishes he [] after
      rw [render_spaced he, hrest]
      exact Fragment.concat_intersperse_append _ _ _ _ _

/-- What follows a clause is seen if both have text. -/
theorem render_clauses_follow_eq_iff {o : Doc} (ho : o.vanishes = true) (before after : List Doc)
    (d e : Doc) :
    (clauses (before ++ follow d (enclosed " " "" e) :: after)).render =
      (clauses (before ++ follow d (enclosed " " "" o) :: after)).render ↔
      d.vanishes = true ∨ e.vanishes = true := by
  cases hd : d.vanishes with
  | true =>
      have hnone (e : Doc) : (follow d (enclosed " " "" e)).vanishes = true := by
        rw [vanishes_follow, hd]
      rw [render_clauses, render_clauses, shown_of_vanishes (hnone e), shown_of_vanishes (hnone o)]
      simp
  | false =>
      have hiff := render_clauses_eq_iff ho (before ++ [d]) after e
      rw [List.append_assoc, List.append_assoc] at hiff
      rw [render_clauses_follow hd, render_clauses_follow hd]
      simpa using hiff

end Doc

/-! ## Joins of statements -/

theorem Select.doc_joins (s : Select) : ∃ before after,
    s.doc = .clauses (before ++ .clauses (joinDocs s.joins) :: after) ∧
    ({ s with joins := [] } : Select).doc =
      .clauses (before ++ .clauses (joinDocs []) :: after) := by
  cases s
  simp only [Select.doc]
  exact ⟨[_, _, _], _, rfl, rfl⟩

theorem Update.doc_joins (s : Update) : ∃ before after,
    s.doc = .clauses (before ++ .follow (.keyword "FROM" (.list (sourceDocs s.sources)))
      (.enclosed " " "" (.clauses (joinDocs s.joins))) :: after) ∧
    ({ s with joins := [] } : Update).doc =
      .clauses (before ++ .follow (.keyword "FROM" (.list (sourceDocs s.sources)))
        (.enclosed " " "" (.clauses (joinDocs []))) :: after) := by
  cases s
  simp only [Update.doc]
  exact ⟨[_, _, _], _, rfl, rfl⟩

theorem Delete.doc_joins (s : Delete) : ∃ before after,
    s.doc = .clauses (before ++ .follow (.keyword "USING" (.list (sourceDocs s.sources)))
      (.enclosed " " "" (.clauses (joinDocs s.joins))) :: after) ∧
    ({ s with joins := [] } : Delete).doc =
      .clauses (before ++ .follow (.keyword "USING" (.list (sourceDocs s.sources)))
        (.enclosed " " "" (.clauses (joinDocs []))) :: after) := by
  cases s
  simp only [Delete.doc]
  exact ⟨[_, _], _, rfl, rfl⟩

/-- No table of a list has text. -/
def Blank (ts : List TableSource) : Prop := ∀ t ∈ ts, t.renderSource.isEmpty = true

theorem vanishes_sources (ts : List TableSource) :
    (Doc.list (sourceDocs ts)).vanishes = true ↔ Blank ts := by
  rw [Doc.vanishes_list, sourceDocs_eq, List.all_map, List.all_eq_true]
  exact Iff.rfl

theorem Join.vanishes_doc (j : Join) : j.doc.vanishes = j.target.renderSource.isEmpty := by
  cases j
  simp only [Join.doc, Doc.vanishes_follow, Doc.vanishes_enclosed]
  rfl

theorem vanishes_joins (js : List Join) :
    (Doc.clauses (joinDocs js)).vanishes = true ↔ Blank (js.map Join.target) := by
  rw [Doc.vanishes_clauses, joinDocs_eq, List.all_map, List.all_eq_true, Blank,
    List.forall_mem_map]
  simp only [Function.comp_apply, Join.vanishes_doc]

theorem blank_nil : Blank [] := by
  intro t ht
  cases ht

theorem vanishes_no_joins : (Doc.clauses (joinDocs [])).vanishes = true :=
  (vanishes_joins []).mpr blank_nil

theorem Update.body_without_joins_iff (s : Update) :
    (Query.update s).body = (Query.update { s with joins := [] }).body ↔
      Blank s.sources ∨ Blank (s.joins.map Join.target) := by
  obtain ⟨before, after, hself, hbare⟩ := s.doc_joins
  simp only [Query.body, Query.doc]
  rw [hself, hbare, Doc.render_clauses_follow_eq_iff vanishes_no_joins, Doc.vanishes_keyword,
    vanishes_sources, vanishes_joins]

theorem Delete.body_without_joins_iff (s : Delete) :
    (Query.delete s).body = (Query.delete { s with joins := [] }).body ↔
      Blank s.sources ∨ Blank (s.joins.map Join.target) := by
  obtain ⟨before, after, hself, hbare⟩ := s.doc_joins
  simp only [Query.body, Query.doc]
  rw [hself, hbare, Doc.render_clauses_follow_eq_iff vanishes_no_joins, Doc.vanishes_keyword,
    vanishes_sources, vanishes_joins]

theorem Select.body_without_joins_iff (s : Select) :
    (Query.select s).body = (Query.select { s with joins := [] }).body ↔
      Blank (s.joins.map Join.target) := by
  obtain ⟨before, after, hself, hbare⟩ := s.doc_joins
  simp only [Query.body, Query.doc]
  rw [hself, hbare, Doc.render_clauses_eq_iff vanishes_no_joins, vanishes_joins]

/-- When the joins of a statement are seen in its text and its values. Those of an update or a
deletion are seen only after a table that has text. Those of a `SELECT` are seen whether there is
one or not, so they are left out without one only if no joined table has text either. -/
theorem joins_seen_iff (u : Update) (d : Delete) (s : Select) :
    ((Query.update u).body ≠ (Query.update { u with joins := [] }).body ↔
      ¬ Blank u.sources ∧ ¬ Blank (u.joins.map Join.target)) ∧
    ((Query.delete d).body ≠ (Query.delete { d with joins := [] }).body ↔
      ¬ Blank d.sources ∧ ¬ Blank (d.joins.map Join.target)) ∧
    ((Query.select s).body ≠ (Query.select { s with joins := [] }).body ↔
      ¬ Blank (s.joins.map Join.target)) ∧
    ((Blank s.sources → (Query.select s).body = (Query.select { s with joins := [] }).body) ↔
      ¬ Blank s.sources ∨ Blank (s.joins.map Join.target)) := by
  refine ⟨?_, ?_, ?_, ?_⟩
  · rw [Ne, u.body_without_joins_iff, not_or]
  · rw [Ne, d.body_without_joins_iff, not_or]
  · rw [Ne, s.body_without_joins_iff]
  · rw [s.body_without_joins_iff]
    constructor
    · intro h
      by_cases hblank : Blank s.sources
      · exact .inr (h hblank)
      · exact .inl hblank
    · rintro (hsources | hjoins) hblank
      · exact absurd hblank hsources
      · exact hjoins

/-- A `SELECT` from a table expression that has come to nothing, with a join. -/
def joinedToNothing : Select :=
  { (Select.new.run .empty).1 with
    sources := [.custom ⟨"unnest(?)", [.list []], none⟩]
    joins := [(Join.ofKind .inner (.base (.ofName "b"))).whenever
      ((Field.qualified "b" "id" .number).eq (.value (.bigInt 7)))] }

theorem join_without_table :
    Blank joinedToNothing.sources ∧
    (Query.select joinedToNothing).body.sql = "SELECT * INNER JOIN b ON b.id = ?" ∧
    (Query.select joinedToNothing).body.args = [.bigInt 7] ∧
    (Query.select { joinedToNothing with joins := [] }).body.sql = "SELECT *" := by
  refine ⟨?_, rfl, rfl, rfl⟩
  intro t ht
  obtain rfl := List.mem_singleton.mp ht
  rfl

end SqlCompose
