import SqlCompose.Proofs.Emptiness
import SqlCompose.Proofs.TopLevel

/-!
# Texts around a field

A document that is made of a field shows the text of the field, with always the same text before and
after it, or it hides the field and has always the same text. Whatever documents are put around it,
this stays so.
-/

namespace SqlCompose

/-! ## Texts around a fragment -/

namespace Fragment

/-- Around each fragment with text there is always the same text. -/
def Shows (F : Fragment → Fragment) : Prop :=
  ∃ l r : Fragment, ∀ f : Fragment, f.isEmpty = false → F f = l.append (f.append r)

/-- All fragments with text give the same. -/
def Hides (F : Fragment → Fragment) : Prop :=
  ∃ t : Fragment, ∀ f : Fragment, f.isEmpty = false → F f = t

theorem Shows.not_isEmpty {F : Fragment → Fragment} (h : Shows F) {f : Fragment}
    (hf : f.isEmpty = false) : (F f).isEmpty = false := by
  obtain ⟨l, r, hF⟩ := h
  rw [hF f hf]
  simp [hf]

theorem Shows.comp {F G : Fragment → Fragment} (hG : Shows G) (hF : Shows F) : Shows (G ∘ F) := by
  have hne := @hF.not_isEmpty
  obtain ⟨l, r, hF⟩ := hF
  obtain ⟨l', r', hG⟩ := hG
  refine ⟨l'.append l, r.append r', fun f hf => ?_⟩
  rw [Function.comp_apply, hG _ (hne hf), hF f hf]
  simp [append_assoc]

theorem Hides.comp {F : Fragment → Fragment} (G : Fragment → Fragment) (hF : Hides F) :
    Hides (G ∘ F) := by
  obtain ⟨t, hF⟩ := hF
  exact ⟨G t, fun f hf => congrArg G (hF f hf)⟩

theorem shows_id : Shows id := ⟨.empty, .empty, fun f _ => by simp⟩

end Fragment

/-! ## Documents around a document -/

/-- What stands in a document that is made of it is shown there, with always the same text around
it. -/
def Doc.Surrounds (C : Doc → Doc) : Prop :=
  ∃ G, Fragment.Shows G ∧ ∀ d, (C d).render = G d.render

namespace Doc.Surrounds

theorem seq (before after : List Doc) : Surrounds fun d => .seq (before ++ d :: after) := by
  refine ⟨fun t => .concat (before.map render ++ t :: after.map render),
    ⟨.concat (before.map render), .concat (after.map render), fun t _ => ?_⟩, fun d => by simp⟩
  simp only [Fragment.concat_append, Fragment.concat_cons]

theorem joined (separator : String) (group : Bool) (before after : List Doc) :
    Surrounds fun d => .joined separator group (before ++ d :: after) := by
  refine ⟨_, exists_joinParts_eq separator group (before.map render) (after.map render),
    fun d => ?_⟩
  rw [render_joined, List.map_append, List.map_cons]

theorem framed (b a : Doc) : Surrounds fun d => .framed b d a := by
  refine ⟨fun t => if t.isEmpty then .empty else (b.render.append t).append a.render,
    ⟨b.render, a.render, fun t ht => ?_⟩, fun d => by simp only [render]⟩
  simp [ht, Fragment.append_assoc]

theorem framed_after {d' : Doc} (hd : d'.vanishes = false) (b : Doc) :
    Surrounds fun d => .framed b d' d := by
  refine ⟨fun t => b.render.append (d'.render.append t),
    ⟨b.render.append d'.render, .empty, fun t _ => ?_⟩, fun d => render_framed hd⟩
  rw [Fragment.append_empty, Fragment.append_assoc]

theorem orElse (e : Doc) : Surrounds fun d => .orElse d e := by
  refine ⟨fun t => if t.isEmpty then e.render else t, ⟨.empty, .empty, fun t ht => ?_⟩,
    fun d => by simp only [render]⟩
  simp [ht]

end Doc.Surrounds

/-! ## Fields in documents -/

/-- How a field stands in a tree, some qualifiers being excluded there. -/
inductive Standing where
  | operand (e : Exclude)
  | projected (e : Exclude)

namespace Standing

def render : Standing → Field → Fragment
  | .operand e, f => f.render e
  | .projected e, f => f.renderProjection e

def isProjected : Standing → Bool
  | .operand _ => false
  | .projected _ => true

end Standing

/-- The text of a document shows that of a field, as the field stands, or else hides it. -/
def Located (shown : Prop) (s : Standing) (d : Field → Doc) : Prop :=
  ∃ F : Fragment → Fragment, (∀ f, (d f).render = F (s.render f)) ∧
    (shown → Fragment.Shows F) ∧ (¬ shown → Fragment.Hides F)

namespace Located

variable {p : Prop} {s : Standing} {d : Field → Doc}

theorem comp (h : Located p s d) {d' : Field → Doc} {G : Fragment → Fragment}
    (hd : ∀ f, (d' f).render = G (d f).render) (hG : Fragment.Shows G) : Located p s d' := by
  obtain ⟨F, hF, hshows, hhides⟩ := h
  exact ⟨G ∘ F, fun f => by rw [hd, hF, Function.comp_apply], fun hp => hG.comp (hshows hp),
    fun hp => (hhides hp).comp G⟩

theorem of_eq (h : Located p s d) {d' : Field → Doc} (hd : ∀ f, (d' f).render = (d f).render) :
    Located p s d' := h.comp hd Fragment.shows_id

theorem surrounded (h : Located p s d) {C : Doc → Doc} (hC : Doc.Surrounds C) :
    Located p s fun f => C (d f) := by
  obtain ⟨G, hG, hrender⟩ := hC
  exact h.comp (fun f => hrender (d f)) hG

theorem of_iff {q : Prop} (h : Located p s d) (hpq : p ↔ q) : Located q s d := propext hpq ▸ h

theorem const (hp : ¬ p) (d : Doc) : Located p s fun _ => d :=
  ⟨fun _ => d.render, fun _ => rfl, fun h => absurd h hp, fun _ => ⟨d.render, fun _ _ => rfl⟩⟩

/-- A document that has the field only under a condition. -/
theorem provided {q : Prop} (hq : q → Located p s d) (hnq : ¬ q → ∃ t, ∀ f, (d f).render = t) :
    Located (p ∧ q) s d := by
  by_cases h : q
  · obtain ⟨F, hF, hshows, hhides⟩ := hq h
    exact ⟨F, hF, fun hp => hshows hp.1, fun hp => hhides fun hp' => hp ⟨hp', h⟩⟩
  · obtain ⟨t, ht⟩ := hnq h
    exact ⟨fun _ => t, ht, fun hp => absurd hp.2 h, fun _ => ⟨t, fun _ _ => rfl⟩⟩

theorem seq (before after : List Doc) (h : Located p s d) :
    Located p s fun f => .seq (before ++ d f :: after) := h.surrounded (.seq before after)

theorem joined (separator : String) (group : Bool) (before after : List Doc) (h : Located p s d) :
    Located p s fun f => .joined separator group (before ++ d f :: after) :=
  h.surrounded (.joined separator group before after)

theorem clauses (before after : List Doc) (h : Located p s d) :
    Located p s fun f => .clauses (before ++ d f :: after) := h.joined " " false before after

/-- One document of a list that is laid out member by member. -/
theorem listed {α : Type} {docs : List α → List Doc} {doc : α → Doc}
    (hdocs : ∀ as, docs as = as.map doc) (before after : List α) {a : Field → α}
    (h : Located p s fun f => doc (a f)) :
    Located p s fun f => .list (docs (before ++ a f :: after)) := by
  simp only [hdocs, List.map_append, List.map_cons]
  exact h.joined ", " false _ _

theorem framed (b a : Doc) (h : Located p s d) : Located p s fun f => .framed b (d f) a :=
  h.surrounded (.framed b a)

theorem framed_before (d' a : Doc) (h : Located p s d) :
    Located (p ∧ d'.vanishes = false) s fun f => .framed (d f) d' a := by
  refine provided (fun hd => ?_) fun hd => ⟨.empty, fun f => ?_⟩
  · refine h.comp (G := fun t => t.append (d'.render.append a.render))
      (fun f => Doc.render_framed hd) ⟨.empty, d'.render.append a.render, fun t _ => ?_⟩
    rw [Fragment.empty_append]
  · exact Doc.render_eq_empty_of_framed (Bool.of_not_eq_false hd)

theorem framed_after_of {d' : Doc} (hd : d'.vanishes = false) (b : Doc) (h : Located p s d) :
    Located p s fun f => .framed b d' (d f) := h.surrounded (.framed_after hd b)

theorem framed_after (b d' : Doc) (h : Located p s d) :
    Located (p ∧ d'.vanishes = false) s fun f => .framed b d' (d f) :=
  provided (fun hd => h.framed_after_of hd b) fun hd =>
    ⟨.empty, fun _ => Doc.render_eq_empty_of_framed (Bool.of_not_eq_false hd)⟩

theorem orElse (e : Doc) (h : Located p s d) : Located p s fun f => .orElse (d f) e :=
  h.surrounded (.orElse e)

theorem enclosed (o c : String) (h : Located p s d) : Located p s fun f => .enclosed o c (d f) :=
  h.framed _ _

theorem keyword (word : String) (h : Located p s d) : Located p s fun f => .keyword word (d f) :=
  h.enclosed _ _

theorem named (label : Option String) (h : Located p s d) :
    Located p s fun f => (d f).named label := by
  cases label with
  | none => exact h
  | some name => exact h.framed _ _

end Located

/-! ## Arguments of templates -/

namespace Template

/-- An argument is written if a slot is left for it and no other one in use is an empty list. -/
def Writes (template : String) (before after : List Arg) : Prop :=
  before.length < Neutral.slotCount template ∧
    .list [] ∉ (before ++ after).take (Neutral.slotCount template - 1)

theorem exists_fill_iff (ms : List Neutral.Mark) (docs : List (Option Doc)) :
    (∃ parts, fill ms docs = some parts) ↔ none ∉ docs.take (ms.count .slot) := by
  rw [← Option.isSome_iff_exists, Option.isSome_iff_ne_none, Ne, fill_eq_none_iff]
  simp

theorem lt_and_not_mem_take_cons {α : Type} {a b : α} {l : List α} {k n : Nat} :
    (k + 1 < n + 1 ∧ a ∉ (b :: l).take n) ↔ b ≠ a ∧ k < n ∧ a ∉ l.take (n - 1) := by
  cases n with
  | zero => simp
  | succ n =>
      rw [List.take_succ_cons, List.mem_cons, not_or, Nat.add_lt_add_iff_right, and_left_comm,
        ne_comm]
      rfl

/-- One document fills one slot, or whatever it is makes no difference. -/
theorem fill_hole (ms : List Neutral.Mark) (before after : List (Option Doc)) :
    (before.length < ms.count .slot ∧ none ∉ (before ++ after).take (ms.count .slot - 1) →
      ∃ l r, ∀ d, fill ms (before ++ some d :: after) = some (l ++ d :: r)) ∧
    (¬ (before.length < ms.count .slot ∧ none ∉ (before ++ after).take (ms.count .slot - 1)) →
      ∃ parts, ∀ d, fill ms (before ++ some d :: after) = parts) := by
  induction ms generalizing before with
  | nil => exact ⟨fun h => absurd h.1 (Nat.not_lt_zero _), fun _ => ⟨some [], fun d => rfl⟩⟩
  | cons m ms ih =>
      cases m with
      | literal c =>
          have hcount : (Neutral.Mark.literal c :: ms).count .slot = ms.count .slot := by simp
          rw [hcount]
          refine ⟨fun h => ?_, fun h => ?_⟩
          · obtain ⟨l, r, hfill⟩ := (ih before).1 h
            exact ⟨.text c.toString :: l, r, fun d => by simp [fill, hfill]⟩
          · obtain ⟨parts, hfill⟩ := (ih before).2 h
            exact ⟨parts.map (.text c.toString :: ·), fun d => by simp [fill, hfill]⟩
      | slot =>
          rw [List.count_cons_self, Nat.add_sub_cancel]
          cases before with
          | nil =>
              rw [List.nil_append, ← exists_fill_iff]
              refine ⟨fun h => ?_, fun h => ?_⟩
              · obtain ⟨-, parts, hfill⟩ := h
                exact ⟨[], parts, fun d => by simp [fill, hfill]⟩
              · have hfill : fill ms after = none := by
                  cases hfill : fill ms after with
                  | none => rfl
                  | some parts => exact absurd ⟨Nat.succ_pos _, parts, hfill⟩ h
                exact ⟨none, fun d => by simp [fill, hfill]⟩
          | cons b before =>
              rw [List.length_cons, List.cons_append, lt_and_not_mem_take_cons]
              cases b with
              | none => exact ⟨fun h => absurd rfl h.1, fun _ => ⟨none, fun d => by simp [fill]⟩⟩
              | some b =>
                  refine ⟨fun h => ?_, fun h => ?_⟩
                  · obtain ⟨l, r, hfill⟩ := (ih before).1 h.2
                    exact ⟨b :: l, r, fun d => by simp [fill, hfill]⟩
                  · obtain ⟨parts, hfill⟩ := (ih before).2 fun h' => h ⟨by simp, h'⟩
                    exact ⟨parts.map (b :: ·), fun d => by simp [fill, hfill]⟩

end Template

theorem Arg.doc?_eq_none_iff {e : Exclude} {a : Arg} : a.doc? e = none ↔ a = .list [] := by
  cases a with
  | list vs => cases vs <;> simp [Arg.doc?]
  | _ => simp [Arg.doc?]

namespace Located

variable {p : Prop} {s : Standing} {d : Field → Doc} {e : Exclude}

theorem argument (template : String) (before after : List Arg) {a : Field → Arg}
    (ha : ∀ f, (a f).doc? e = some (d f)) (h : Located p s d) :
    Located (p ∧ Template.Writes template before after) s fun f =>
      Template.doc template (argDocs e (before ++ a f :: after)) := by
  have hwrites : Template.Writes template before after ↔
      (before.map (·.doc? e)).length < (Neutral.marks template.toList).count .slot ∧
      none ∉ (before.map (·.doc? e) ++ after.map (·.doc? e)).take
        ((Neutral.marks template.toList).count .slot - 1) := by
    rw [List.length_map, ← List.map_append, ← List.map_take, List.mem_map]
    simp only [Arg.doc?_eq_none_iff, exists_eq_right]
    rfl
  obtain ⟨hshown, hhidden⟩ := Template.fill_hole (Neutral.marks template.toList)
    (before.map (·.doc? e)) (after.map (·.doc? e))
  simp only [argDocs_eq, List.map_append, List.map_cons, ha]
  refine provided (fun hw => ?_) fun hw => ?_
  · obtain ⟨l, r, hfill⟩ := hshown (hwrites.mp hw)
    simp only [Template.doc, hfill]
    exact h.seq l r
  · obtain ⟨parts, hfill⟩ := hhidden fun h => hw (hwrites.mpr h)
    simp only [Template.doc, hfill]
    exact ⟨_, fun _ => rfl⟩

theorem operand {F : Field → Field} (h : Located p s fun f => (F f).doc e) :
    Located p s fun f => operandDoc e (some (F f)) := by
  simp only [operandDoc]
  exact h.orElse _

theorem fields {F : Field → Field} (before after : List Field)
    (h : Located p s fun f => (F f).doc e) :
    Located p s fun f => .list (fieldDocs e (before ++ F f :: after)) :=
  listed (fieldDocs_eq e) before after h

theorem projections {F : Field → Field} (before after : List Field)
    (h : Located p s fun f => (F f).projectionDoc .none) :
    Located p s fun f => .list (projectionDocs (before ++ F f :: after)) :=
  listed projectionDocs_eq before after h

theorem sources {T : Field → TableSource} (before after : List TableSource)
    (h : Located p s fun f => (T f).doc.named (T f).label) :
    Located p s fun f => .list (sourceDocs (before ++ T f :: after)) :=
  listed sourceDocs_eq before after h

theorem joins {J : Field → Join} (before after : List Join) (h : Located p s fun f => (J f).doc) :
    Located p s fun f => .clauses (joinDocs (before ++ J f :: after)) := by
  simp only [joinDocs_eq, List.map_append, List.map_cons]
  exact h.clauses _ _

theorem assignments {A : Field → Assignment} (before after : List Assignment)
    (h : Located p s fun f => (A f).doc e) :
    Located p s fun f => .list (assignmentDocs e (before ++ A f :: after)) :=
  listed (assignmentDocs_eq e) before after h

theorem tuples {F : Field → Field} (before after : List Field) (rows rest : List Tuple)
    (h : Located p s fun f => (F f).doc .none) :
    Located p s fun f => .list (tupleDocs (rows ++ ⟨before ++ F f :: after⟩ :: rest)) := by
  refine listed tupleDocs_eq rows rest ?_
  simp only [Tuple.doc]
  exact (listed valueDocs_eq before after (h.orElse _)).enclosed _ _

/-- A member of a group, which may be all of it. -/
theorem group {P : Field → Predicate} (hdoc : Located p s fun f => (P f).doc e false)
    (halone : ∀ c w, Located p s fun f => groupDoc e c w [P f]) (c : Connective) (w : Bool)
    (before after : List Predicate) :
    Located p s fun f => groupDoc e c w (before ++ P f :: after) := by
  cases hl : before.isEmpty && after.isEmpty with
  | true =>
      simp only [Bool.and_eq_true, List.isEmpty_iff] at hl
      obtain ⟨rfl, rfl⟩ := hl
      exact halone c w
  | false =>
      have hlist (f : Field) : isLoneGroup (before ++ P f :: after) = false := by
        rw [Predicate.isLoneGroup_append_cons, hl, Bool.false_and]
      refine (hdoc.joined c.separator (!w) (before.map (·.doc e false))
        (after.map (·.doc e false))).of_eq fun f => ?_
      rw [groupDoc_of_not_lone (hlist f) (by simp), List.map_append, List.map_cons]

theorem alone {P : Field → Predicate} (hP : ∀ f, isLoneGroup [P f] = false)
    (hdoc : Located p s fun f => (P f).doc e false) (c : Connective) (w : Bool) :
    Located p s fun f => groupDoc e c w [P f] := by
  simp only [groupDoc_of_not_lone (hP _) (List.cons_ne_nil _ _)]
  exact hdoc.joined c.separator (!w) [] []

theorem withClause (before after : List Cte) (c : Cte) {Q : Field → Query}
    (h : Located p s fun f => (Q f).doc) :
    Located p s fun f => withDoc (before ++ { c with query := Q f } :: after)
      (.list (cteDocs (before ++ { c with query := Q f } :: after))) := by
  have hlist : Located p s fun f =>
      .list (cteDocs (before ++ { c with query := Q f } :: after)) := by
    refine listed cteDocs_eq before after ?_
    simp only [Cte.doc]
    exact h.enclosed _ _
  simp only [withDoc, List.any_append, List.any_cons]
  split
  · exact hlist.enclosed _ _
  · exact hlist

end Located

end SqlCompose
