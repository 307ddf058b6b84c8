import SqlCompose.Select
import SqlCompose.Proofs.Layout

/-!
# Marked groups within other predicates

A group may be marked to stand without parentheses. The place of a predicate is a context, a
predicate with a hole. The mark is without effect where the hole is the operand of a negation or the
only member of a group. Everywhere else a marked group of two or more members loses its parentheses,
even where a neighbour then takes one of its members, and nothing else of the text changes.
-/

namespace SqlCompose

/-! ## Joined parts -/

theorem Fragment.exists_concat_intersperse (s : Fragment) (before after : List Fragment) :
    ∃ l r : Fragment, ∀ f : Fragment,
      concat ((before ++ f :: after).intersperse s) = l.append (f.append r) := by
  induction before with
  | nil =>
      cases after with
      | nil => exact ⟨.empty, .empty, fun f => by simp⟩
      | cons g after =>
          exact ⟨.empty, s.append (concat ((g :: after).intersperse s)), fun f => by simp⟩
  | cons b before ih =>
      obtain ⟨l, r, h⟩ := ih
      refine ⟨b.append (s.append l), r, fun f => ?_⟩
      have hne : before ++ f :: after ≠ [] := by simp
      obtain ⟨g, rest, hg⟩ := List.exists_cons_of_ne_nil hne
      have hf := h f
      rw [hg] at hf
      rw [List.cons_append, hg]
      simp [hf, append_assoc]

/-- Around each part with text there is always the same text. -/
theorem Doc.exists_joinParts_eq (s : String) (group : Bool) (before after : List Fragment) :
    ∃ l r : Fragment, ∀ f : Fragment, f.isEmpty = false →
      joinParts s group (before ++ f :: after) = l.append (f.append r) := by
  obtain ⟨l, r, h⟩ := Fragment.exists_concat_intersperse (.raw s)
    (before.filter (! ·.isEmpty)) (after.filter (! ·.isEmpty))
  have hall (f : Fragment) (hf : f.isEmpty = false) :
      (before ++ f :: after).filter (! ·.isEmpty) =
        before.filter (! ·.isEmpty) ++ f :: after.filter (! ·.isEmpty) := by
    simp [hf]
  cases hg : group && decide (2 ≤ (before.filter (! ·.isEmpty)).length +
      ((after.filter (! ·.isEmpty)).length + 1)) with
  | true =>
      refine ⟨(Fragment.raw "(").append l, r.append (.raw ")"), fun f hf => ?_⟩
      have hne : (l.append (f.append r)).isEmpty = false := by simp [hf]
      rw [joinParts_eq, hall f hf]
      simp only [h, List.length_append, List.length_cons, hg, if_true]
      rw [Fragment.parenthesized_of_not_empty hne]
      simp [Fragment.append_assoc]
  | false =>
      refine ⟨l, r, fun f hf => ?_⟩
      rw [joinParts_eq, hall f hf]
      simp only [h, List.length_append, List.length_cons, hg]
      rfl

namespace Predicate

inductive Context where
  | hole
  | group (connective : Connective) (before : List Predicate) (inner : Context)
      (after : List Predicate) (topLevel : Bool)
  | negation (inner : Context)

namespace Context

def fill (p : Predicate) : Context → Predicate
  | .hole => p
  | .group c before inner after t => .group c (before ++ inner.fill p :: after) t
  | .negation inner => .negation (inner.fill p)

def isHole : Context → Bool
  | .hole => true
  | _ => false

theorem eq_hole {K : Context} (h : K.isHole = true) : K = .hole := by
  cases K with
  | hole => rfl
  | group c before inner after t => simp [isHole] at h
  | negation inner => simp [isHole] at h

/-- Whether the hole is the operand of a negation or the only member of a group. -/
def shields : Context → Bool
  | .hole => false
  | .group _ before inner after _ =>
    (inner.isHole && before.isEmpty && after.isEmpty) || inner.shields
  | .negation inner => inner.isHole || inner.shields

end Context

/-- The texts of the members of a group, once lone inner groups have taken its place. -/
def memberTexts (e : Exclude) : List Predicate → List Fragment
  | [.group _ ms _] => memberTexts e ms
  | ms => (ms.map (·.render e)).filter (! ·.isEmpty)

/-- Whether a predicate is a group with parentheses. -/
def parenthesizes (e : Exclude) : Predicate → Bool
  | .group _ ms false => 2 ≤ (memberTexts e ms).length
  | _ => false

theorem isLoneGroup_eq_false {ms : List Predicate} (h : ∀ c ns t, ms ≠ [.group c ns t]) :
    isLoneGroup ms = false := by
  cases hl : isLoneGroup ms with
  | true =>
      obtain ⟨c, ns, t, rfl⟩ := exists_of_isLoneGroup hl
      exact absurd rfl (h c ns t)
  | false => rfl

theorem render_groupDoc_false (e : Exclude) (c : Connective) (ms : List Predicate) :
    (groupDoc e c false ms).render =
      if 2 ≤ (memberTexts e ms).length then (groupDoc e c true ms).render.parenthesized
      else (groupDoc e c true ms).render := by
  fun_induction memberTexts e ms generalizing c with
  | case1 i ms t ih => rw [groupDoc_lone, groupDoc_lone, ih]
  | case2 ms h =>
      have hl := isLoneGroup_eq_false h
      rw [render_groupDoc_of_not_lone hl, render_groupDoc_of_not_lone hl, Doc.joinParts_eq,
        Doc.joinParts_eq]
      simp [Predicate.render]

theorem isEmpty_render_groupDoc (e : Exclude) (c : Connective) (w : Bool) (ms : List Predicate) :
    (groupDoc e c w ms).render.isEmpty = (memberTexts e ms).isEmpty := by
  fun_induction memberTexts e ms generalizing c with
  | case1 i ms t ih => rw [groupDoc_lone, ih]
  | case2 ms h =>
      rw [render_groupDoc_of_not_lone (isLoneGroup_eq_false h), Bool.eq_iff_iff]
      simp [Doc.isEmpty_joinParts, List.filter_eq_nil_iff, Predicate.render]

/-- A mark takes away the parentheses of a group that has them, and does nothing else. -/
theorem render_eq_topLevel (p : Predicate) (e : Exclude) :
    p.render e =
      if p.parenthesizes e then (p.topLevel.render e).parenthesized else p.topLevel.render e := by
  cases p with
  | group c ms t =>
      cases t with
      | true => simp [topLevel, parenthesizes]
      | false =>
          simp only [Predicate.render, topLevel, doc_group, Bool.or_false, Bool.or_true,
            render_groupDoc_false, parenthesizes, decide_eq_true_eq]
  | _ => simp [topLevel, parenthesizes]

theorem not_isEmpty_of_parenthesizes {p : Predicate} {e : Exclude}
    (h : p.parenthesizes e = true) : (p.topLevel.render e).isEmpty = false := by
  cases p with
  | group c ms t =>
      cases t with
      | true => simp [parenthesizes] at h
      | false =>
          simp only [parenthesizes, decide_eq_true_eq] at h
          rw [Predicate.render, topLevel, doc_group, isEmpty_render_groupDoc]
          cases hm : memberTexts e ms with
          | nil => simp [hm] at h
          | cons f fs => rfl
  | _ => simp [parenthesizes] at h

theorem doc_topLevel_whole (p : Predicate) (e : Exclude) :
    p.topLevel.doc e true = p.doc e true := by
  cases p with
  | group c ms t => simp [topLevel]
  | _ => rfl

theorem extend_eq_fill {p : Predicate} {c : Connective} (h : ∀ ms t, p ≠ .group c ms t)
    (q : Predicate) : p.extend c q = (Context.group c [] .hole [q] false).fill p := by
  cases p with
  | group i ms t =>
      have hi : i ≠ c := by
        rintro rfl
        exact h ms t rfl
      simp [extend, hi, ofList, Context.fill]
  | _ => rfl

theorem topLevel_ne_group {p : Predicate} {c : Connective} (h : ∀ ms t, p ≠ .group c ms t) :
    ∀ ms t, p.topLevel ≠ .group c ms t := by
  cases p with
  | group i ms t =>
      intro ns u hp
      obtain ⟨rfl, _⟩ := Predicate.group.inj hp
      exact h ms t rfl
  | _ => simp [topLevel]

theorem exists_extend_eq_fill (q : Predicate) (c : Connective) :
    ∃ before t, ∀ p, q.extend c p = (Context.group c before .hole [] t).fill p := by
  by_cases h : ∃ ms t, q = .group c ms t
  · obtain ⟨ms, t, rfl⟩ := h
    exact ⟨ms, t, fun p => by simp [extend, Context.fill]⟩
  · refine ⟨[q], false, fun p => ?_⟩
    rw [extend_eq_fill fun ms t hq => h ⟨ms, t, hq⟩]
    rfl

/-! ## Layouts of filled contexts -/

theorem isLoneGroup_append_cons (before after : List Predicate) (p : Predicate) :
    isLoneGroup (before ++ p :: after) = (before.isEmpty && after.isEmpty && isLoneGroup [p]) := by
  cases before with
  | nil =>
      cases after with
      | nil => simp
      | cons q after => cases p <;> simp [isLoneGroup]
  | cons q before => cases q <;> cases before <;> simp [isLoneGroup]

theorem doc_fill {K : Context} (h : K.isHole = false) (p q : Predicate) (e : Exclude) (w : Bool) :
    (K.fill p).doc e w = ((K.fill p).withFlag false).doc e (w || (K.fill q).flag) := by
  have hflag : (K.fill p).flag = (K.fill q).flag := by
    cases K with
    | hole => simp [Context.isHole] at h
    | group c before inner after t => rfl
    | negation inner => rfl
  rw [doc_eq_doc_withFlag, hflag]

/-- A predicate with a hole as the only member of a group takes the group's place, or the group is
laid out member by member, whatever is in the hole. -/
theorem groupDoc_fill {K : Context} (h : K.isHole = false) (before after : List Predicate) :
    (before = [] ∧ after = [] ∧ ∀ p e c w,
      groupDoc e c w [K.fill p] = ((K.fill p).withFlag false).doc e w) ∨
    ∀ p, isLoneGroup (before ++ K.fill p :: after) = false := by
  cases K with
  | hole => simp [Context.isHole] at h
  | group i before' inner after' t =>
      cases hl : before.isEmpty && after.isEmpty with
      | true =>
          simp only [Bool.and_eq_true, List.isEmpty_iff] at hl
          exact .inl ⟨hl.1, hl.2, fun p e c w => by simp [Context.fill, withFlag]⟩
      | false => exact .inr fun p => by rw [isLoneGroup_append_cons, hl, Bool.false_and]
  | negation inner =>
      exact .inr fun p => by rw [isLoneGroup_append_cons]; simp [Context.fill, isLoneGroup]

theorem doc_withFlag_fill_topLevel {K : Context} (h : K.shields = true) (p : Predicate)
    (e : Exclude) (w : Bool) :
    ((K.fill p.topLevel).withFlag false).doc e w = ((K.fill p).withFlag false).doc e w := by
  induction K generalizing w with
  | hole => simp [Context.shields] at h
  | group c before inner after t ih =>
      simp only [Context.fill, withFlag, doc_group, Bool.or_false]
      cases hi : inner.isHole with
      | true =>
          obtain rfl := Context.eq_hole hi
          obtain ⟨rfl, rfl⟩ : before = [] ∧ after = [] := by
            simpa [Context.shields, Context.isHole] using h
          cases p with
          | group i ms t => simp [Context.fill, topLevel]
          | _ => rfl
      | false =>
          have hs : inner.shields = true := by simpa [Context.shields, hi] using h
          obtain ⟨rfl, rfl, hlone⟩ | hlist := groupDoc_fill hi before after
          · rw [List.nil_append, List.nil_append, hlone, hlone, ih hs]
          · rw [groupDoc_of_not_lone (hlist _) (by simp), groupDoc_of_not_lone (hlist _) (by simp)]
            simp only [List.map_append, List.map_cons]
            rw [doc_fill hi p.topLevel p, doc_fill hi p p, ih hs]
  | negation inner ih =>
      simp only [Context.fill, withFlag, Predicate.doc]
      cases hi : inner.isHole with
      | true =>
          obtain rfl := Context.eq_hole hi
          rw [Context.fill, Context.fill, doc_topLevel_whole]
      | false =>
          have hs : inner.shields = true := by simpa [Context.shields, hi] using h
          rw [doc_fill hi p.topLevel p, doc_fill hi p p, ih hs]

/-! ## Texts of filled contexts -/

/-- A text depends on a predicate only through the predicate's own text, which it contains. -/
def Contains (e : Exclude) (text : Predicate → Fragment) : Prop :=
  ∃ F : Fragment → Fragment, (∀ p, text p = F (p.render e)) ∧
    ∃ l r : Fragment, ∀ f : Fragment, f.isEmpty = false → F f = l.append (f.append r)

theorem contains_render (e : Exclude) : Contains e (·.render e) :=
  ⟨id, fun _ => rfl, .empty, .empty, fun f _ => by simp⟩

theorem Contains.comp {e : Exclude} {text : Predicate → Fragment} (h : Contains e text)
    {G : Fragment → Fragment}
    (hG : ∃ l r : Fragment, ∀ f : Fragment, f.isEmpty = false → G f = l.append (f.append r)) :
    Contains e fun p => G (text p) := by
  obtain ⟨F, hF, l, r, hl⟩ := h
  obtain ⟨l', r', hl'⟩ := hG
  refine ⟨G ∘ F, fun p => congrArg G (hF p), l'.append l, r.append r', fun f hf => ?_⟩
  have hne : (F f).isEmpty = false := by rw [hl f hf]; simp [hf]
  rw [Function.comp_apply, hl' _ hne, hl f hf]
  simp [Fragment.append_assoc]

theorem Contains.enclosed {e : Exclude} {d : Predicate → Doc} (h : Contains e fun p => (d p).render)
    (o c : String) : Contains e fun p => (Doc.enclosed o c (d p)).render := by
  let G (f : Fragment) : Fragment :=
    if f.isEmpty then .empty else ((Fragment.ident o).append f).append (.ident c)
  have hG (p : Predicate) : (Doc.enclosed o c (d p)).render = G (d p).render := by
    simp only [Doc.enclosed, Doc.render]
    rfl
  simp only [hG]
  refine h.comp ⟨.ident o, .ident c, fun f hf => ?_⟩
  simp [G, hf, Fragment.append_assoc]

/-- Where the hole is not shielded, the text of a context contains the text of the predicate. -/
theorem contains_fill {K : Context} (hK : K.isHole = false) (h : K.shields = false) (e : Exclude)
    (w : Bool) : Contains e fun p => (((K.fill p).withFlag false).doc e w).render := by
  induction K generalizing w with
  | hole => simp [Context.isHole] at hK
  | group c before inner after t ih =>
      simp only [Context.fill, withFlag, doc_group, Bool.or_false]
      have hjoin := Doc.exists_joinParts_eq c.separator (!w)
        (before.map fun m => (m.doc e false).render) (after.map fun m => (m.doc e false).render)
      cases hi : inner.isHole with
      | true =>
          -- not shielded, so the predicate has a neighbour and keeps its own mark
          obtain rfl := Context.eq_hole hi
          have hlist (p : Predicate) : isLoneGroup (before ++ p :: after) = false := by
            rw [isLoneGroup_append_cons]
            cases before <;> cases after <;> simp_all [Context.shields, Context.isHole]
          simp only [Context.fill, render_groupDoc_of_not_lone (hlist _), List.map_append,
            List.map_cons]
          exact (contains_render e).comp hjoin
      | false =>
          have hs : inner.shields = false := by simpa [Context.shields, hi] using h
          obtain ⟨rfl, rfl, hlone⟩ | hlist := groupDoc_fill hi before after
          · -- the inner group stands in the place of this one, whatever its own mark is
            simp only [List.nil_append, hlone]
            exact ih hi hs w
          · simp only [render_groupDoc_of_not_lone (hlist _), List.map_append, List.map_cons]
            have hinner : Contains e fun p => ((inner.fill p).doc e false).render := by
              simp only [doc_fill hi _ (.raw "")]
              exact ih hi hs _
            exact hinner.comp hjoin
  | negation inner ih =>
      simp only [Context.shields, Bool.or_eq_false_iff] at h
      simp only [Context.fill, withFlag, Predicate.doc]
      have hinner : Contains e fun p => ((inner.fill p).doc e true).render := by
        simp only [doc_fill h.1 _ (.raw "")]
        exact ih h.1 h.2 _
      exact hinner.enclosed "NOT (" ")"

/-- What a mark on the predicate in the hole of a context does to a text. Where the hole is shielded
and where the predicate has no parentheses, it does nothing; elsewhere it takes away the predicate's
parentheses and leaves the rest as it is. -/
structure MarkEffect (K : Context) (p : Predicate) (e : Exclude) (text : Predicate → Fragment) :
    Prop where
  same : K.shields = true ∨ p.parenthesizes e = false → text p.topLevel = text p
  opened : K.shields = false → p.parenthesizes e = true → ∃ l r : Fragment,
    text p = l.append ((p.topLevel.render e).parenthesized.append r) ∧
    text p.topLevel = l.append ((p.topLevel.render e).append r)

theorem markEffect_fill {K : Context} (hK : K.isHole = false) (p : Predicate) (e : Exclude)
    (w : Bool) : MarkEffect K p e fun q => ((K.fill q).doc e w).render := by
  simp only [doc_fill hK _ (.raw "")]
  generalize (w || (K.fill (.raw "")).flag) = w
  cases hs : K.shields with
  | true => exact ⟨fun _ => by rw [doc_withFlag_fill_topLevel hs], fun h => by simp [hs] at h⟩
  | false =>
      obtain ⟨F, hF, l, r, hl⟩ := contains_fill hK hs e w
      simp only [hF]
      cases hp : p.parenthesizes e with
      | false =>
          have hsame : p.topLevel.render e = p.render e := by simp [render_eq_topLevel p e, hp]
          exact ⟨fun _ => by rw [hsame], fun _ h => by simp [hp] at h⟩
      | true =>
          have hne := not_isEmpty_of_parenthesizes hp
          have hopened : p.render e = (p.topLevel.render e).parenthesized := by
            simp [render_eq_topLevel p e, hp]
          refine ⟨by simp [hs, hp], fun _ _ => ⟨l, r, ?_, hl _ hne⟩⟩
          rw [hopened]
          exact hl _ (by simp [hne])

/-- A mark on a predicate below another one, or among the conditions of a list, takes away the
parentheses of that predicate at most, and only where the predicate stands next to others. -/
theorem topLevel_below_root (p : Predicate) (e : Exclude) :
    (∀ K : Context, K.isHole = false →
      (MarkEffect K p e fun q => (K.fill q).render e) ∧
      (MarkEffect K p e fun q => (K.fill q).renderTop e)) ∧
    (∀ c (q : Predicate), ∃ before t, ∀ p,
      q.extend c p = (Context.group c before .hole [] t).fill p) ∧
    (∀ c q, (∀ ms t, p ≠ .group c ms t) →
      p.extend c q = (Context.group c [] .hole [q] false).fill p ∧
      p.topLevel.extend c q = (Context.group c [] .hole [q] false).fill p.topLevel) ∧
    (∀ (K : Context) before after, MarkEffect (.group .and before K after true) p e fun q =>
      (groupDoc e .and true (before ++ K.fill q :: after)).render) ∧
    (∀ s : Select, ∃ before after, ∀ ps, ({ s with filters := ps } : Select).doc =
      .clauses (before ++ .keyword "WHERE" (groupDoc .none .and true ps) :: after)) ∧
    (∀ s : Select, ∃ before after, ∀ ps, ({ s with having := ps } : Select).doc =
      .clauses (before ++ .keyword "HAVING" (groupDoc .none .and true ps) :: after)) ∧
    (∀ s : Update, ∃ before after, ∀ ps, ({ s with filters := ps } : Update).doc =
      .clauses (before ++ .keyword "WHERE" (groupDoc .none .and true ps) :: after)) ∧
    (∀ s : Delete, ∃ before after, ∀ ps, ({ s with filters := ps } : Delete).doc =
      .clauses (before ++ .keyword "WHERE" (groupDoc .none .and true ps) :: after)) ∧
    (∀ j : Join, j.kind ≠ .cross → ∃ target, ∀ ps, ({ j with conditions := ps } : Join).doc =
      .follow target (.enclosed " ON " "" (groupDoc .none .and true ps))) ∧
    (∀ fields target, ∃ columns, ∀ ps, (ConflictTarget.columns fields ps).doc target =
      .follow columns (.enclosed " WHERE " "" (groupDoc target .and true ps))) ∧
    ∀ assignments target, assignments ≠ [] → ∃ before, ∀ ps,
      (ConflictAction.update assignments ps).doc target =
        .seq (before ++ [.enclosed " WHERE " "" (groupDoc .none .and true ps)]) := by
  refine ⟨fun K hK => ⟨markEffect_fill hK p e false, markEffect_fill hK p e true⟩, ?_, ?_, ?_,
    Select.doc_filters, Select.doc_having, Update.doc_filters, Delete.doc_filters,
    fun _ => Join.doc_conditions, ConflictTarget.doc_filters, fun _ target h =>
    ConflictAction.doc_filters h target⟩
  · intro c q
    exact exists_extend_eq_fill q c
  · intro c q h
    exact ⟨extend_eq_fill h q, extend_eq_fill (topLevel_ne_group h) q⟩
  · intro K before after
    have := markEffect_fill (K := .group .and before K after true) rfl p e true
    simpa only [Context.fill, doc_group, Bool.or_true] using this

/-- Of two conditions that must both hold, the second is torn apart: without its parentheses the
text is read as a disjunction. -/
theorem marked_member_loses_parentheses :
    (all [raw "a", (any [raw "b", raw "c"]).topLevel]).renderTop .none ≠
      (all [raw "a", any [raw "b", raw "c"]]).renderTop .none ∧
    ((all [raw "a", (any [raw "b", raw "c"]).topLevel]).renderTop .none).sql = "a AND b OR c" ∧
    ((all [raw "a", any [raw "b", raw "c"]]).renderTop .none).sql = "a AND (b OR c)" := by
  have hmarked : ((all [raw "a", (any [raw "b", raw "c"]).topLevel]).renderTop .none).sql =
      "a AND b OR c" := by rfl
  have hplain : ((all [raw "a", any [raw "b", raw "c"]]).renderTop .none).sql =
      "a AND (b OR c)" := by rfl
  refine ⟨fun h => ?_, hmarked, hplain⟩
  rw [h, hplain] at hmarked
  simp at hmarked

/-- Alone in its group or negated, a marked group is written as any other. -/
example :
    ((all [.negation (any [raw "a", raw "b"]).topLevel, all [(any [raw "c"]).topLevel]]).render
      .none).sql = "(NOT (a OR b) AND c)" := by rfl

end Predicate

end SqlCompose
