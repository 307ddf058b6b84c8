import SqlCompose.Proofs.Joins
import SqlCompose.Proofs.TopLevel
import SqlCompose.Proofs.Windows

/-!
# Members without text

A member without text leaves no trace in a group, wherever the group stands, and a condition that
says nothing leaves none in a list of conditions. There is one exception. A single group that is the
only other member would take the place of the list; next to one more member, with text or without,
it keeps the place its own mark gives it.
-/

namespace SqlCompose

/-! ## Documents within documents -/

theorem Fragment.append_cancel {l r f g : Fragment} :
    l.append (f.append r) = l.append (g.append r) ↔ f = g := by
  refine ⟨fun h => ?_, fun h => by rw [h]⟩
  have hsql := congrArg (fun f => f.sql.toList) h
  have hargs := congrArg Fragment.args h
  simp only [sql_append, args_append, String.toList_append, List.append_cancel_left_eq,
    List.append_cancel_right_eq, String.toList_inj] at hsql hargs
  exact ext hsql hargs

theorem Fragment.parenthesized_ne {f : Fragment} (h : f.isEmpty = false) :
    f.parenthesized ≠ f := by
  intro hf
  have hlength := congrArg (fun f => f.sql.length) hf
  simp only [parenthesized_of_not_empty h, sql_append, sql_raw, String.length_append] at hlength
  have hparen : "(".length = 1 := rfl
  omega

/-- The text of a document contains that of another, with always the same text around it. -/
def Doc.Displays {α : Type} (d inner : α → Doc) : Prop :=
  ∃ F, Fragment.Shows F ∧ ∀ a, (d a).render = F (inner a).render

namespace Doc.Displays

variable {α : Type} {d inner : α → Doc}

theorem refl (d : α → Doc) : Displays d d := ⟨id, Fragment.shows_id, fun _ => rfl⟩

theorem of_eq (h : Displays d inner) {d' : α → Doc} (hd : ∀ a, (d' a).render = (d a).render) :
    Displays d' inner := by
  obtain ⟨F, hF, hrender⟩ := h
  exact ⟨F, hF, fun a => by rw [hd, hrender]⟩

theorem surrounded (h : Displays d inner) {C : Doc → Doc} (hC : Surrounds C) :
    Displays (fun a => C (d a)) inner := by
  obtain ⟨F, hF, hrender⟩ := h
  obtain ⟨G, hG, hC⟩ := hC
  exact ⟨G ∘ F, hG.comp hF, fun a => by rw [hC, hrender, Function.comp_apply]⟩

theorem render_eq_iff (h : Displays d inner) {a b : α}
    (hab : (inner a).vanishes = (inner b).vanishes) :
    (d a).render = (d b).render ↔ (inner a).render = (inner b).render := by
  obtain ⟨F, ⟨l, r, hF⟩, hrender⟩ := h
  rw [hrender, hrender]
  cases ha : (inner a).vanishes with
  | true =>
      have hb : (inner b).vanishes = true := by rw [← hab, ha]
      rw [render_eq_empty _ ha, render_eq_empty _ hb]
      exact ⟨fun _ => rfl, fun _ => rfl⟩
  | false =>
      have hb : (inner b).vanishes = false := by rw [← hab, ha]
      rw [vanishes] at ha hb
      rw [hF _ ha, hF _ hb, Fragment.append_cancel]

end Doc.Displays

/-! ## Groups with a member without text -/

namespace Predicate

/-- The only member of a group takes the place of the group. -/
theorem render_groupDoc_singleton (e : Exclude) (c : Connective) (w : Bool) (p : Predicate) :
    (groupDoc e c w [p]).render = ((p.withFlag false).doc e w).render := by
  by_cases h : ∃ i ms t, p = .group i ms t
  · obtain ⟨i, ms, t, rfl⟩ := h
    simp [withFlag]
  · have hgroup : ∀ i ms t, p ≠ .group i ms t := fun i ms t hp => h ⟨i, ms, t, hp⟩
    have hflag : p.withFlag false = p := by cases p <;> simp_all [withFlag]
    have hlone : isLoneGroup [p] = false := isLoneGroup_eq_false (by simpa using hgroup)
    rw [groupDoc_of_not_lone hlone (by simp), List.map_singleton, Doc.render_joined_singleton,
      hflag, doc_eq_doc_false hgroup e w]

theorem vanishes_doc_eq (p : Predicate) (e : Exclude) (w : Bool) :
    (p.doc e w).vanishes = (p.render e).isEmpty := by
  cases p with
  | group c ms t =>
      simp only [Predicate.render, Doc.vanishes, doc_group, isEmpty_render_groupDoc]
  | _ => simp only [Predicate.render, Doc.vanishes, Predicate.doc]

/-- Whether a list of members is a single group of two or more members with text, and the mark of
that group is not what the place of the list says. -/
def Displaced (e : Exclude) (whole : Bool) (ms : List Predicate) : Prop :=
  ∃ c ns t, ms = [.group c ns t] ∧ t ≠ whole ∧ 2 ≤ (memberTexts e ns).length

theorem not_displaced_of_not_lone {ms : List Predicate} (h : isLoneGroup ms = false) (e : Exclude)
    (whole : Bool) : ¬ Displaced e whole ms := by
  rintro ⟨c, ns, t, rfl, -, -⟩
  simp [isLoneGroup] at h

theorem displaced_group_iff {e : Exclude} {whole : Bool} {c : Connective} {ns : List Predicate}
    {t : Bool} : Displaced e whole [.group c ns t] ↔ t ≠ whole ∧ 2 ≤ (memberTexts e ns).length := by
  refine ⟨?_, fun h => ⟨c, ns, t, rfl, h⟩⟩
  rintro ⟨c', ns', t', heq, ht, hns⟩
  obtain ⟨rfl, rfl, rfl⟩ := by simpa using heq
  exact ⟨ht, hns⟩

section

variable {v : Predicate} {e : Exclude} (hv : (v.render e).isEmpty = true)

include hv

theorem filter_insert_absent (before after : List Predicate) :
    ((before ++ v :: after).map fun m => (m.doc e false).render).filter (! ·.isEmpty) =
      ((before ++ after).map fun m => (m.doc e false).render).filter (! ·.isEmpty) := by
  have hdoc : (v.doc e false).render.isEmpty = true := hv
  simp [hdoc]

theorem render_groupDoc_insert_of_not_lone {before after : List Predicate}
    (h : isLoneGroup (before ++ after) = false) (c : Connective) (w : Bool) :
    (groupDoc e c w (before ++ v :: after)).render = (groupDoc e c w (before ++ after)).render := by
  cases hl : before.isEmpty && after.isEmpty with
  | true =>
      obtain ⟨rfl, rfl⟩ : before = [] ∧ after = [] := by simpa using hl
      have hempty : ((v.withFlag false).doc e w).vanishes = true := by
        rw [vanishes_doc_eq, ← hv, ← vanishes_doc_eq v e true, ← vanishes_doc_eq _ e true,
          doc_eq_doc_withFlag v, Bool.true_or]
      rw [List.nil_append, List.nil_append, render_groupDoc_singleton, groupDoc_nil,
        Doc.render_eq_empty _ hempty, Doc.render_eq_empty _ Doc.vanishes_empty]
  | false =>
      have hlist : isLoneGroup (before ++ v :: after) = false := by
        rw [isLoneGroup_append_cons, hl, Bool.false_and]
      rw [render_groupDoc_of_not_lone hlist, render_groupDoc_of_not_lone h]
      exact Doc.joinParts_congr (filter_insert_absent hv before after) _ _

/-- Next to a member without text, a group is laid out as it would be next to any other. -/
theorem render_groupDoc_insert_of_lone {before after : List Predicate} {i : Connective}
    {ns : List Predicate} {t : Bool} (h : before ++ after = [.group i ns t]) (c : Connective)
    (w : Bool) :
    (groupDoc e c w (before ++ v :: after)).render = (groupDoc e i t ns).render := by
  have hne : (before.isEmpty && after.isEmpty) = false := by
    cases before <;> cases after <;> simp_all
  have hlist : isLoneGroup (before ++ v :: after) = false := by
    rw [isLoneGroup_append_cons, hne, Bool.false_and]
  have hparts := filter_insert_absent hv before after
  rw [h] at hparts
  rw [render_groupDoc_of_not_lone hlist, Doc.joinParts_congr hparts]
  have hone := Doc.render_joined_singleton c.separator (!w) ((group i ns t).doc e false)
  rwa [Doc.render_joined, doc_group, Bool.false_or] at hone

theorem vanishes_groupDoc_insert (before after : List Predicate) (c : Connective) (w : Bool) :
    (groupDoc e c w (before ++ v :: after)).vanishes =
      (groupDoc e c w (before ++ after)).vanishes := by
  cases hl : isLoneGroup (before ++ after) with
  | false =>
      rw [Doc.vanishes, Doc.vanishes, render_groupDoc_insert_of_not_lone hv hl]
  | true =>
      obtain ⟨i, ns, t, h⟩ := exists_of_isLoneGroup hl
      rw [Doc.vanishes, Doc.vanishes, render_groupDoc_insert_of_lone hv h, h, groupDoc_lone,
        isEmpty_render_groupDoc, isEmpty_render_groupDoc]

/-- A group that is displaced has the parentheses its own mark gives it, and would have those of the
place without the member that has no text. -/
theorem render_groupDoc_of_displaced {before after : List Predicate} {w : Bool}
    (h : Displaced e w (before ++ after)) (c : Connective) :
    ∃ f : Fragment, f.isEmpty = false ∧
      (groupDoc e c w (before ++ v :: after)).render = (if w then f.parenthesized else f) ∧
      (groupDoc e c w (before ++ after)).render = (if w then f else f.parenthesized) := by
  obtain ⟨i, ns, t, hlone, ht, hns⟩ := h
  have hparens := render_groupDoc_false e i ns
  rw [if_pos hns] at hparens
  refine ⟨(groupDoc e i true ns).render, ?_, ?_, ?_⟩
  · rw [isEmpty_render_groupDoc]
    cases hm : memberTexts e ns with
    | nil => simp [hm] at hns
    | cons f fs => rfl
  · rw [render_groupDoc_insert_of_lone hv hlone]
    cases w <;> cases t <;> simp_all
  · rw [hlone, groupDoc_lone]
    cases w <;> simp_all

theorem render_groupDoc_insert_iff (before after : List Predicate) (c : Connective) (w : Bool) :
    (groupDoc e c w (before ++ v :: after)).render = (groupDoc e c w (before ++ after)).render ↔
      ¬ Displaced e w (before ++ after) := by
  refine ⟨fun h hdisplaced => ?_, fun h => ?_⟩
  · obtain ⟨f, hf, hwith, hwithout⟩ := render_groupDoc_of_displaced hv hdisplaced c
    rw [hwith, hwithout] at h
    cases w with
    | true => exact Fragment.parenthesized_ne hf h
    | false => exact Fragment.parenthesized_ne hf h.symm
  · cases hl : isLoneGroup (before ++ after) with
    | false => exact render_groupDoc_insert_of_not_lone hv hl c w
    | true =>
        obtain ⟨i, ns, t, hlone⟩ := exists_of_isLoneGroup hl
        rw [render_groupDoc_insert_of_lone hv hlone, hlone, groupDoc_lone]
        rw [hlone, displaced_group_iff, not_and, Nat.not_le] at h
        by_cases ht : t = w
        · rw [ht]
        · have hns := h ht
          have hsame := render_groupDoc_false e i ns
          rw [if_neg (by omega)] at hsame
          cases t <;> cases w <;> simp_all

end

/-! ## Where lists of conditions stand -/

namespace Context

/-- The mark of what a context makes of a group with a mark. -/
def mark (t : Bool) : Context → Bool
  | .hole => t
  | .group _ _ _ _ u => u
  | .negation _ => false

/-- Whether a group in the hole of a context stands as a whole, if what the context makes of it
does or does not. -/
def whole (t : Bool) : Context → Bool → Bool
  | .hole, w => w
  | .group _ before inner after _, w =>
    inner.whole t (if before.isEmpty && after.isEmpty then w else inner.mark t)
  | .negation inner, _ => inner.whole t true

theorem flag_fill_group (K : Context) (c : Connective) (ms : List Predicate) (t : Bool) :
    (K.fill (.group c ms t)).flag = K.mark t := by cases K <;> rfl

theorem displays_fill_withFlag (K : Context) (e : Exclude) (c : Connective) (t w : Bool) :
    Doc.Displays (fun ms => ((K.fill (.group c ms t)).withFlag false).doc e w)
      (groupDoc e c (K.whole t w)) := by
  induction K generalizing w with
  | hole =>
      refine (Doc.Displays.refl _).of_eq fun ms => ?_
      simp [fill, withFlag, whole]
  | group i before inner after u ih =>
      simp only [fill, withFlag, doc_group, Bool.or_false, whole]
      cases hl : before.isEmpty && after.isEmpty with
      | true =>
          obtain ⟨rfl, rfl⟩ : before = [] ∧ after = [] := by simpa using hl
          exact (ih w).of_eq fun ms => render_groupDoc_singleton e i w _
      | false =>
          -- next to others, what stands in the group keeps its own mark
          have hlist (p : Predicate) : isLoneGroup (before ++ p :: after) = false := by
            rw [isLoneGroup_append_cons, hl, Bool.false_and]
          simp only [groupDoc_of_not_lone (hlist _) (by simp), List.map_append, List.map_cons]
          have hinner : Doc.Displays (fun ms => (inner.fill (.group c ms t)).doc e false)
              (groupDoc e c (inner.whole t (inner.mark t))) :=
            (ih (inner.mark t)).of_eq fun ms => by
              rw [doc_eq_doc_withFlag, flag_fill_group, Bool.false_or]
          exact hinner.surrounded (.joined _ _ _ _)
  | negation inner ih =>
      simp only [fill, withFlag, Predicate.doc, whole]
      have hinner : Doc.Displays (fun ms => (inner.fill (.group c ms t)).doc e true)
          (groupDoc e c (inner.whole t true)) :=
        (ih true).of_eq fun ms => by rw [doc_eq_doc_withFlag, Bool.true_or]
      exact hinner.surrounded (.framed _ _)

theorem displays_fill (K : Context) (e : Exclude) (c : Connective) (t w : Bool) :
    Doc.Displays (fun ms => (K.fill (.group c ms t)).doc e w)
      (groupDoc e c (K.whole t (w || K.mark t))) :=
  (K.displays_fill_withFlag e c t (w || K.mark t)).of_eq fun ms => by
    rw [doc_eq_doc_withFlag, flag_fill_group]

end Context

/-- A place for a list of predicates: the members of a group somewhere in a predicate, or the
conditions of a clause. -/
inductive Listing where
  | members (K : Context) (c : Connective) (topLevel : Bool) (e : Exclude) (asWhole : Bool)
  | selected (s : Select)
  | having (s : Select)
  | updated (s : Update)
  | deleted (s : Delete)
  | joined (j : Join)
  | index (e : Exclude) (fields : List Field)
  | overwriting (e : Exclude) (assignments : List Assignment)

namespace Listing

/-- What is laid out around the list. -/
def doc : Listing → List Predicate → Doc
  | .members K c t e w, ms => (K.fill (.group c ms t)).doc e w
  | .selected s, ms => ({ s with filters := ms } : Select).doc
  | .having s, ms => ({ s with having := ms } : Select).doc
  | .updated s, ms => ({ s with filters := ms } : Update).doc
  | .deleted s, ms => ({ s with filters := ms } : Delete).doc
  | .joined j, ms => ({ j with conditions := ms } : Join).doc
  | .index e fields, ms => (ConflictTarget.columns fields ms).doc e
  | .overwriting e assignments, ms => (ConflictAction.update assignments ms).doc e

def connective : Listing → Connective
  | .members _ c _ _ _ => c
  | _ => .and

def exclude : Listing → Exclude
  | .members _ _ _ e _ => e
  | .index e _ => e
  | _ => .none

/-- Whether the list stands without parentheses. -/
def whole : Listing → Bool
  | .members K _ t _ w => K.whole t (w || K.mark t)
  | _ => true

/-- Whether the list is written at all. A cross join has no conditions, a table without text no
join, and a conflict clause no conditions without columns or assignments. -/
def written : Listing → Bool
  | .joined j => j.kind ≠ .cross && !j.target.renderSource.isEmpty
  | .index e fields => !((ConflictTarget.columns fields []).doc e).vanishes
  | .overwriting _ assignments => !assignments.isEmpty
  | _ => true

theorem displays_clause {d inner : List Predicate → Doc} {word : String}
    (h : ∃ before after, ∀ ms, d ms = .clauses (before ++ .keyword word (inner ms) :: after)) :
    Doc.Displays d inner := by
  obtain ⟨before, after, hd⟩ := h
  have hclause := (Doc.Displays.refl inner).surrounded (.framed (.text (word ++ " ")) (.text ""))
  exact (hclause.surrounded (.joined " " false before after)).of_eq fun ms => by rw [hd]; rfl

theorem displays_follow {d inner : List Predicate → Doc} {o c : String}
    (h : ∃ first, ∀ ms, d ms = .follow first (.enclosed o c (inner ms)))
    (hd : (d []).vanishes = false) : Doc.Displays d inner := by
  obtain ⟨first, hfirst⟩ := h
  rw [hfirst, Doc.vanishes_follow] at hd
  have hlist := (Doc.Displays.refl inner).surrounded (.framed (.text o) (.text c))
  exact (hlist.surrounded (.framed_after hd .empty)).of_eq fun ms => by rw [hfirst]; rfl

theorem displays (L : Listing) (h : L.written = true) :
    Doc.Displays L.doc (groupDoc L.exclude L.connective L.whole) := by
  cases L with
  | members K c t e w => exact K.displays_fill e c t w
  | selected s => exact displays_clause s.doc_filters
  | having s => exact displays_clause s.doc_having
  | updated s => exact displays_clause s.doc_filters
  | deleted s => exact displays_clause s.doc_filters
  | joined j =>
      obtain ⟨hkind, htarget⟩ : j.kind ≠ .cross ∧ j.target.renderSource.isEmpty = false := by
        simpa [written] using h
      exact displays_follow (Join.doc_conditions hkind) (by rw [doc, Join.vanishes_doc, htarget])
  | index e fields =>
      exact displays_follow (ConflictTarget.doc_filters fields e) (by simpa [written, doc] using h)
  | overwriting e assignments =>
      have hne : assignments ≠ [] := by simpa [written] using h
      obtain ⟨before, hdoc⟩ := ConflictAction.doc_filters hne e
      have hlist := (Doc.Displays.refl (groupDoc .none .and true)).surrounded
        (.framed (.text " WHERE ") (.text ""))
      exact (hlist.surrounded (.seq before [])).of_eq fun ms => by rw [doc, hdoc]; rfl

theorem render_of_not_written {L : Listing} (h : L.written = false) (ms ns : List Predicate) :
    (L.doc ms).render = (L.doc ns).render := by
  cases L with
  | joined j =>
      cases hv : j.target.renderSource.isEmpty with
      | true =>
          have hempty (ps : List Predicate) : ((Listing.joined j).doc ps).vanishes = true := by
            rw [doc, Join.vanishes_doc, hv]
          rw [Doc.render_eq_empty _ (hempty ms), Doc.render_eq_empty _ (hempty ns)]
      | false =>
          have hkind : j.kind = .cross := by simpa [written, hv] using h
          simp only [doc, Join.doc, hkind, if_true]
  | index e fields =>
      obtain ⟨columns, hdoc⟩ := ConflictTarget.doc_filters fields e
      have hcolumns : columns.vanishes = true := by
        simpa [written, hdoc] using h
      have hempty (ps : List Predicate) : ((Listing.index e fields).doc ps).vanishes = true := by
        rw [doc, hdoc, Doc.vanishes_follow, hcolumns]
      rw [Doc.render_eq_empty _ (hempty ms), Doc.render_eq_empty _ (hempty ns)]
  | overwriting e assignments =>
      obtain rfl : assignments = [] := by simpa [written] using h
      simp only [doc, ConflictAction.doc]
  | _ => simp [written] at h

end Listing

/-- A member without text is told from the text of a predicate or a statement only where it keeps a
single other member, a group, from taking the place of the list. Then that group has the parentheses
its own mark gives it in place of those of the list, and nothing else of the text changes. -/
theorem render_insert_absent_iff (L : Listing) {v : Predicate}
    (hv : (v.render L.exclude).isEmpty = true) (before after : List Predicate) :
    ((L.doc (before ++ v :: after)).render = (L.doc (before ++ after)).render ↔
      (L.written = true → ¬ Displaced L.exclude L.whole (before ++ after))) ∧
    (L.written = true → Displaced L.exclude L.whole (before ++ after) →
      ∃ l f r : Fragment, f.isEmpty = false ∧
        (L.doc (before ++ v :: after)).render =
          l.append ((if L.whole then f.parenthesized else f).append r) ∧
        (L.doc (before ++ after)).render =
          l.append ((if L.whole then f else f.parenthesized).append r)) := by
  cases h : L.written with
  | false => simp [Listing.render_of_not_written h (before ++ v :: after) (before ++ after)]
  | true =>
      refine ⟨?_, fun _ hd => ?_⟩
      · rw [(L.displays h).render_eq_iff (vanishes_groupDoc_insert hv before after _ _),
          render_groupDoc_insert_iff hv]
        simp
      · obtain ⟨f, hf, hwith, hwithout⟩ := render_groupDoc_of_displaced hv hd L.connective
        obtain ⟨F, ⟨l, r, hF⟩, hrender⟩ := L.displays h
        refine ⟨l, f, r, hf, ?_, ?_⟩
        · rw [hrender, hwith]
          exact hF _ (by split <;> simp [hf])
        · rw [hrender, hwithout]
          exact hF _ (by split <;> simp [hf])

theorem absent_member_between_others :
    (((Field.raw "c").inList []).render .none).isEmpty = true ∧
      (all [raw "a", (Field.raw "c").inList [], raw "b"]).render .none =
        (all [raw "a", raw "b"]).render .none := by
  have hv : (((Field.raw "c").inList []).render .none).isEmpty = true := by rfl
  refine ⟨hv, ?_⟩
  exact (render_insert_absent_iff (.members .hole .and false .none false) hv [raw "a"]
    [raw "b"]).1.mpr fun _ => not_displaced_of_not_lone rfl _ _

theorem absent_member_noticed :
    ((all []).render .none).isEmpty = true ∧
      (all [any [raw "a", raw "b"], all []]).renderTop .none ≠
        (all [any [raw "a", raw "b"]]).renderTop .none ∧
      ((all [any [raw "a", raw "b"], all []]).renderTop .none).sql = "(a OR b)" ∧
      ((all [any [raw "a", raw "b"]]).renderTop .none).sql = "a OR b" ∧
      (all [(any [raw "a", raw "b"]).topLevel, all []]).render .none ≠
        (all [(any [raw "a", raw "b"]).topLevel]).render .none ∧
      ((all [(any [raw "a", raw "b"]).topLevel, all []]).render .none).sql = "a OR b" ∧
      ((all [(any [raw "a", raw "b"]).topLevel]).render .none).sql = "(a OR b)" := by
  have hwith : ((all [any [raw "a", raw "b"], all []]).renderTop .none).sql = "(a OR b)" := by rfl
  have hwithout : ((all [any [raw "a", raw "b"]]).renderTop .none).sql = "a OR b" := by rfl
  have hmarked : ((all [(any [raw "a", raw "b"]).topLevel, all []]).render .none).sql =
      "a OR b" := by rfl
  have hlone : ((all [(any [raw "a", raw "b"]).topLevel]).render .none).sql = "(a OR b)" := by rfl
  refine ⟨by rfl, fun h => ?_, hwith, hwithout, fun h => ?_, hmarked, hlone⟩
  · rw [h, hwithout] at hwith
    simp at hwith
  · rw [h, hlone] at hmarked
    simp at hmarked

end Predicate

end SqlCompose
