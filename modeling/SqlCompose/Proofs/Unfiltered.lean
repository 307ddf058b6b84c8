import SqlCompose.Proofs.Edits
import SqlCompose.Proofs.Emptiness

/-!
# Changes of every row

An update or a deletion that is sent without a `WHERE` clause changes every row of its target.
Whether it has none is asked before it is sent, of a clause rendered for that question only. The
answer is the right one: it says whether all conditions ever added are vacuous, and whether the text
that is sent is the one without any condition.
-/

namespace SqlCompose

/-! ## Clauses that are left out -/

namespace Fragment

theorem length_joined_cons (s : String) (f : Fragment) (fs : List Fragment) :
    (concat ((f :: fs).intersperse (raw s))).sql.length =
      f.sql.length + if fs.isEmpty then 0
        else s.length + (concat (fs.intersperse (raw s))).sql.length := by
  cases fs <;> simp

/-- One more fragment with text makes a joined text longer. -/
theorem length_joined_lt {f : Fragment} (hf : f.sql.length ≠ 0) (s : String)
    (before after : List Fragment) :
    (concat ((before ++ after).intersperse (raw s))).sql.length <
      (concat ((before ++ f :: after).intersperse (raw s))).sql.length := by
  induction before with
  | nil =>
      rw [List.nil_append, List.nil_append, length_joined_cons]
      cases after with
      | nil => simpa [Nat.pos_iff_ne_zero] using hf
      | cons g after =>
          rw [List.isEmpty_cons, if_neg Bool.false_ne_true]
          omega
  | cons g before ih =>
      have hne : (before ++ f :: after).isEmpty = false := by simp
      rw [List.cons_append, List.cons_append, length_joined_cons, length_joined_cons, hne,
        if_neg Bool.false_ne_true]
      split <;> omega

end Fragment

namespace Doc

/-- The clauses that have text. -/
def shown (ds : List Doc) : List Fragment := (ds.map render).filter (! ·.isEmpty)

theorem shown_append (ds es : List Doc) : shown (ds ++ es) = shown ds ++ shown es := by
  simp [shown]

theorem shown_eq_nil {ds : List Doc} (h : ∀ d ∈ ds, d.vanishes = true) : shown ds = [] := by
  simp only [vanishes] at h
  simpa [shown] using h

theorem shown_of_vanishes {d : Doc} (h : d.vanishes = true) (before after : List Doc) :
    shown (before ++ d :: after) = shown before ++ shown after := by
  simp only [vanishes] at h
  simp [shown, List.filter_append, h]

theorem shown_of_not_vanishes {d : Doc} (h : d.vanishes = false) (before after : List Doc) :
    shown (before ++ d :: after) = shown before ++ d.render :: shown after := by
  simp only [vanishes] at h
  simp [shown, List.filter_append, h]

theorem render_clauses (ds : List Doc) :
    (clauses ds).render = .concat ((shown ds).intersperse (.raw " ")) := by
  rw [clauses, render_joined, joinParts_eq]
  simp [shown]

/-- Clauses have the same text with and without one of them exactly if that one is empty. -/
theorem render_clauses_eq_iff {e : Doc} (he : e.vanishes = true) (before after : List Doc)
    (d : Doc) : (clauses (before ++ d :: after)).render = (clauses (before ++ e :: after)).render ↔
      d.vanishes = true := by
  rw [render_clauses, render_clauses, shown_of_vanishes he]
  cases hd : d.vanishes with
  | true => simp [shown_of_vanishes hd]
  | false =>
      rw [shown_of_not_vanishes hd]
      simp only [Bool.false_eq_true, iff_false]
      intro h
      have hlen : d.render.sql.length ≠ 0 := by
        rw [Ne, String.length_eq_zero_iff, ← String.isEmpty_iff]
        exact Bool.eq_false_iff.mp hd
      have hlt := Fragment.length_joined_lt hlen " " (shown before) (shown after)
      exact Nat.lt_irrefl _ (h ▸ hlt)

end Doc

/-! ## The question -/

/-- What is known of a statement that may change every row, given the conditions ever added to it
and the same statement without them. -/
structure GuardedExactly (q bare : Query) (conditions : List Predicate) : Prop where
  vacuous : q.changesEveryRow = true ↔ ∀ p ∈ conditions, p.vacuous = true
  body : q.changesEveryRow = true ↔ q.body = bare.body
  clause : ∃ before after : List Doc,
    q.doc = .clauses (before ++ .keyword "WHERE" (filterDoc conditions) :: after) ∧
    bare.doc = .clauses (before ++ .keyword "WHERE" .empty :: after) ∧
    (q.changesEveryRow = true ↔ (Doc.keyword "WHERE" (filterDoc conditions)).render = .empty)
  nested : q.asNested.changesEveryRow = q.changesEveryRow ∧ q.asNested.body = q.body

theorem unfiltered_eq (ps : List Predicate) : unfiltered ps = ps.all Predicate.vacuous := by
  rw [unfiltered, filterDoc, ← allVacuous_eq]
  exact groupDoc_vacuous ps .and true

namespace GuardedExactly

/-- A statement whose guard asks about its `WHERE` clause is guarded exactly. -/
theorem of_clause {q bare : Query} {ps : List Predicate} {before after : List Doc}
    (hguard : q.changesEveryRow = unfiltered ps)
    (hq : q.doc = .clauses (before ++ .keyword "WHERE" (filterDoc ps) :: after))
    (hbare : bare.doc = .clauses (before ++ .keyword "WHERE" .empty :: after))
    (hnested : q.asNested.changesEveryRow = q.changesEveryRow ∧ q.asNested.body = q.body) :
    GuardedExactly q bare ps := by
  have hclause :
      q.changesEveryRow = true ↔ (Doc.keyword "WHERE" (filterDoc ps)).vanishes = true := by
    rw [hguard, Doc.vanishes_keyword]
    rfl
  refine ⟨?_, ?_, ⟨before, after, hq, hbare, ?_⟩, hnested⟩
  · rw [hguard, unfiltered_eq, List.all_eq_true]
  · rw [hclause, Query.body, Query.body, hq, hbare]
    exact (Doc.render_clauses_eq_iff (by simp) before after _).symm
  · rw [hclause]
    refine ⟨Doc.render_eq_empty _, fun h => ?_⟩
    rw [Doc.vanishes, h, Fragment.isEmpty_empty]

theorem update (s : Update) :
    GuardedExactly (.update s) (.update { s with filters := [] }) s.filters := by
  obtain ⟨before, after, hdoc⟩ := s.doc_filters
  cases s with
  | mk =>
      refine of_clause rfl (hdoc _) ?_ ⟨rfl, ?_⟩
      · rw [← groupDoc_nil .none .and true]
        exact hdoc []
      · simp only [Query.body, Query.asNested, Query.doc, Update.doc]

theorem delete (s : Delete) :
    GuardedExactly (.delete s) (.delete { s with filters := [] }) s.filters := by
  obtain ⟨before, after, hdoc⟩ := s.doc_filters
  cases s with
  | mk =>
      refine of_clause rfl (hdoc _) ?_ ⟨rfl, ?_⟩
      · rw [← groupDoc_nil .none .and true]
        exact hdoc []
      · simp only [Query.body, Query.asNested, Query.doc, Delete.doc]

end GuardedExactly

/-- The question whether a statement changes every row is answered exactly, for updates and
deletions however they were built. -/
theorem Query.changesEveryRow_exact :
    (∀ q : Query, q.body.isEmpty = false) ∧
    (∀ (target : BaseTable) (edits : List Update.Edit) (n : Naming),
      let s := ((Update.built target edits).run n).1
      GuardedExactly (.update s) (.update { s with filters := [] })
        (edits.flatMap Update.Edit.conditions)) ∧
    (∀ (target : BaseTable) (edits : List Delete.Edit) (n : Naming),
      let s := ((Delete.built target edits).run n).1
      GuardedExactly (.delete s) (.delete { s with filters := [] })
        (edits.flatMap Delete.Edit.conditions)) := by
  refine ⟨Query.doc_not_vanishes, fun target edits n => ?_, fun target edits n => ?_⟩
  · rw [← Update.filters_built target edits n]
    exact GuardedExactly.update _
  · rw [← Delete.filters_built target edits n]
    exact GuardedExactly.delete _

/-- The denial of an empty list of values is no condition. -/
example (f : Field) : (Predicate.negation (.all [f.inList []])).vacuous = true := by rfl

end SqlCompose
