import SqlCompose.Delete
import SqlCompose.Insert
import SqlCompose.Select
import SqlCompose.Update
import SqlCompose.Proofs.Infix
import SqlCompose.Proofs.Layout

/-!
# What conditions mean

A predicate is a tree of groups and negations over leaves, the conditions that SQL does not look
into. Leaves without text are absent, and so are the groups and negations that they leave without
members. The main statements say that the text of a predicate, read by the rules of SQL, means what
is left of the tree, and that a clause means the conjunction of its conditions.
-/

namespace SqlCompose

def Connective.tight : Connective → Bool
  | .and => true
  | .or => false

def combine? {α : Type} (op : α → α → α) : List α → Option α
  | [] => none
  | v :: vs => some (vs.foldl op v)

namespace Predicate

/-- A condition that is not made of other conditions. -/
def isLeaf : Predicate → Bool
  | .group _ _ _ => false
  | .negation _ => false
  | _ => true

/-- No group of a predicate is marked to stand without parentheses. -/
inductive Unmarked : Predicate → Prop where
  | leaf {p} : p.isLeaf = true → Unmarked p
  | group {c ms} : (∀ m ∈ ms, Unmarked m) → Unmarked (.group c ms false)
  | negation {p} : Unmarked p → Unmarked (.negation p)

theorem Unmarked.flag_eq {p : Predicate} (h : p.Unmarked) : p.flag = false := by
  cases h with
  | @leaf _ hp => cases p <;> simp_all [isLeaf, flag]
  | group _ => rfl
  | negation _ => rfl

mutual

/-- The leaves that have text, from left to right. -/
def survivors (e : Exclude) : Predicate → List Predicate
  | .group _ ms _ => memberSurvivors e ms
  | .negation p => p.survivors e
  | p => if (p.render e).isEmpty then [] else [p]

def memberSurvivors (e : Exclude) : List Predicate → List Predicate
  | [] => []
  | p :: ps => p.survivors e ++ memberSurvivors e ps

end

section Value

variable {α : Type} (e : Exclude) (op : Connective → α → α → α) (neg : α → α) (σ : Predicate → α)

mutual

/-- The value of what is left of a predicate without its absent leaves, under a meaning of the
leaves, of the connectives and of negation. -/
def value? : Predicate → Option α
  | .group c ms _ => combine? (op c) (memberValues ms)
  | .negation p => p.value?.map neg
  | p => if (p.render e).isEmpty then none else some (σ p)

def memberValues : List Predicate → List α
  | [] => []
  | p :: ps => p.value?.toList ++ memberValues ps

end

end Value

/-! ## Texts of what is left -/

abbrev Word := Infix.Token Predicate Connective

/-- What a condition says. -/
abbrev Formula := Infix.Term Predicate Connective

def spell (e : Exclude) (ts : List Word) : Fragment :=
  Infix.spell (·.render e) Connective.separator ts

/-- Words that read as a formula, and their text is not empty. -/
structure Row (e : Exclude) (s : Infix.Strength) where
  words : List Word
  formula : Formula
  reads : Infix.Reads Connective.tight s words formula
  shown : (spell e words).isEmpty = false

/-- A fragment is the text of what is left of a predicate. -/
inductive Shows (e : Exclude) (s : Infix.Strength) (p : Predicate) : Fragment → Prop where
  | nothing : p.survivors e = [] →
      (∀ {α : Type} (op : Connective → α → α → α) neg σ, p.value? e op neg σ = none) →
      Shows e s p .empty
  | text (r : Row e s) : p.survivors e = r.formula.leaves →
      (∀ {α : Type} (op : Connective → α → α → α) neg σ,
        p.value? e op neg σ = some (r.formula.eval op neg σ)) →
      Shows e s p (spell e r.words)

def Row.loosen {e : Exclude} (r : Row e .operand) (w : Bool) :
    Row e (if w then .loose else .operand) :=
  match w with
  | true => ⟨r.words, r.formula, r.reads.alone, r.shown⟩
  | false => r

theorem Shows.loosen {e : Exclude} {p : Predicate} {f : Fragment} (h : Shows e .operand p f)
    (w : Bool) : Shows e (if w then .loose else .operand) p f := by
  cases h with
  | nothing hs hv => exact .nothing hs hv
  | text r hs hv => cases w <;> exact .text (r.loosen _) hs hv

def Row.chain {e : Exclude} (c : Connective) (r : Row e .operand) (rows : List (Row e .operand)) :
    Row e .loose where
  words := r.words ++ rows.flatMap fun r => .op c :: r.words
  formula := rows.foldl (fun t r => .node c t r.formula) r.formula
  reads := by
    have := r.reads.chain c (rows.map fun r => (r.words, r.formula)) fun r hr => by
      obtain ⟨r, _, rfl⟩ := List.mem_map.mp hr
      exact r.reads
    simpa [List.flatMap_map, List.foldl_map] using this
  shown := by
    have := r.shown
    simp only [spell] at this
    simp [spell, this]

theorem Row.spell_chain {e : Exclude} (c : Connective) (r : Row e .operand)
    (rows : List (Row e .operand)) :
    Fragment.concat (((r :: rows).map (spell e ·.words)).intersperse (.raw c.separator)) =
      spell e (r.chain c rows).words := by
  have := Infix.concat_intersperse_spell (·.render e) Connective.separator c r.words
    (rows.map (·.words))
  rw [← List.map_cons, List.map_map, List.flatMap_map] at this
  exact this

def Row.parens {e : Exclude} (r : Row e .loose) : Row e .operand where
  words := .opening :: r.words ++ [.closing]
  formula := r.formula
  reads := .parens r.reads
  shown := by simp [spell, Infix.Token.spell]

theorem Row.spell_parens {e : Exclude} (r : Row e .loose) :
    spell e r.parens.words = (spell e r.words).parenthesized := by
  rw [Fragment.parenthesized_of_not_empty r.shown]
  simp [parens, spell, Infix.Token.spell]

theorem exists_rows {e : Exclude} {ms : List Predicate}
    (h : ∀ m ∈ ms, Shows e .operand m (m.render e)) :
    ∃ rows : List (Row e .operand),
      (ms.map (·.render e)).filter (! ·.isEmpty) = rows.map (spell e ·.words) ∧
      memberSurvivors e ms = rows.flatMap (·.formula.leaves) ∧
      ∀ {α : Type} (op : Connective → α → α → α) neg σ,
        memberValues e op neg σ ms = rows.map (·.formula.eval op neg σ) := by
  induction ms with
  | nil => exact ⟨[], by simp, by simp [memberSurvivors], by simp [memberValues]⟩
  | cons m ms ih =>
      obtain ⟨hm, hms⟩ := List.forall_mem_cons.mp h
      obtain ⟨rows, hf, hs, hv⟩ := ih hms
      generalize hr : m.render e = f at hm
      cases hm with
      | nothing hs' hv' =>
          refine ⟨rows, ?_, ?_, ?_⟩
          · simp [hr, hf]
          · simp [memberSurvivors, hs', hs]
          · intro α op neg σ; simp [memberValues, hv', hv]
      | text r hs' hv' =>
          refine ⟨r :: rows, ?_, ?_, ?_⟩
          · simp [hr, hf, r.shown]
          · simp [memberSurvivors, hs', hs]
          · intro α op neg σ; simp [memberValues, hv', hv]

/-- Joined members show what is left of their group: as a whole without parentheses, within another
predicate in parentheses if there are two or more. -/
theorem shows_joinParts {e : Exclude} {ms : List Predicate}
    (h : ∀ m ∈ ms, Shows e .operand m (m.render e)) (c : Connective) (w t : Bool) :
    Shows e (if w then .loose else .operand) (.group c ms t)
      (Doc.joinParts c.separator (!w) (ms.map (·.render e))) := by
  obtain ⟨rows, hf, hs, hv⟩ := exists_rows h
  rw [Doc.joinParts_eq, hf]
  match rows with
  | [] =>
      have hleaves : (group c ms t).survivors e = [] := by rw [survivors, hs]; rfl
      have hvalue {α : Type} (op : Connective → α → α → α) (neg σ) :
          (group c ms t).value? e op neg σ = none := by rw [value?, hv]; rfl
      simpa using (Shows.nothing hleaves hvalue).loosen w
  | [r] =>
      have hleaves : (group c ms t).survivors e = r.formula.leaves := by
        rw [survivors, hs]; simp
      have hvalue {α : Type} (op : Connective → α → α → α) (neg σ) :
          (group c ms t).value? e op neg σ = some (r.formula.eval op neg σ) := by
        rw [value?, hv]; rfl
      simpa using (Shows.text r hleaves hvalue).loosen w
  | r :: r' :: rows =>
      have hleaves : (group c ms t).survivors e = (r.chain c (r' :: rows)).formula.leaves := by
        rw [survivors, hs, Row.chain, Infix.Term.leaves_foldl]; simp
      have hvalue {α : Type} (op : Connective → α → α → α) (neg σ) :
          (group c ms t).value? e op neg σ =
            some ((r.chain c (r' :: rows)).formula.eval op neg σ) := by
        rw [value?, hv, Row.chain, Infix.Term.eval_foldl]; rfl
      have htext := Row.spell_chain c r (r' :: rows)
      simp only [List.map_cons, List.length_cons] at htext ⊢
      rw [htext]
      cases w with
      | true => exact .text (r.chain c (r' :: rows)) hleaves hvalue
      | false =>
          have := Shows.text (r.chain c (r' :: rows)).parens hleaves hvalue
          simpa [Row.spell_parens] using this

theorem Shows.congr {e : Exclude} {s : Infix.Strength} {p q : Predicate} {f : Fragment}
    (h : Shows e s p f) (hs : q.survivors e = p.survivors e)
    (hv : ∀ {α : Type} (op : Connective → α → α → α) neg σ,
      q.value? e op neg σ = p.value? e op neg σ) : Shows e s q f := by
  cases h with
  | nothing hs' hv' =>
      exact .nothing (hs.trans hs') fun op neg σ => (hv op neg σ).trans (hv' op neg σ)
  | text r hs' hv' =>
      exact .text r (hs.trans hs') fun op neg σ => (hv op neg σ).trans (hv' op neg σ)

theorem shows_leaf {p : Predicate} (h : p.isLeaf = true) (e : Exclude) :
    Shows e .operand p (p.render e) := by
  have hs : p.survivors e = if (p.render e).isEmpty then [] else [p] := by
    cases p with
    | group c ms t => simp [isLeaf] at h
    | negation p => simp [isLeaf] at h
    | _ => rw [survivors] <;> simp
  have hv {α : Type} (op : Connective → α → α → α) (neg σ) :
      p.value? e op neg σ = if (p.render e).isEmpty then none else some (σ p) := by
    cases p with
    | group c ms t => simp [isLeaf] at h
    | negation p => simp [isLeaf] at h
    | _ => rw [value?] <;> simp
  cases hf : (p.render e).isEmpty with
  | true =>
      have hempty : p.render e = .empty := Doc.render_eq_empty _ hf
      rw [hempty]
      exact .nothing (by simp [hs, hf]) fun op neg σ => by simp [hv, hf]
  | false =>
      let r : Row e .operand :=
        ⟨[.leaf p], .leaf p, .leaf p, by simp [spell, Infix.Token.spell, hf]⟩
      have := Shows.text r (p := p) (by simp [hs, hf, r, Infix.Term.leaves]) fun op neg σ => by
        simp [hv, hf, r, Infix.Term.eval]
      simpa [r, spell, Infix.Token.spell] using this

theorem shows_negation {e : Exclude} {p : Predicate} {d : Doc} (h : Shows e .loose p d.render) :
    Shows e .operand (.negation p) (Doc.enclosed "NOT (" ")" d).render := by
  generalize hf : d.render = f at h
  cases h with
  | nothing hs hv =>
      have hd : d.vanishes = true := by rw [Doc.vanishes, hf]; rfl
      rw [Doc.enclosed, Doc.render_eq_empty_of_framed hd]
      exact .nothing (by rw [survivors, hs]) fun op neg σ => by rw [value?, hv]; rfl
  | text r hs hv =>
      have hd : d.vanishes = false := by rw [Doc.vanishes, hf, r.shown]
      let n : Row e .operand :=
        ⟨.not :: r.parens.words, .not r.formula, .not r.parens.reads, by
          simp [spell, Infix.Token.spell]⟩
      have htext : (Doc.enclosed "NOT (" ")" d).render = spell e n.words := by
        rw [Doc.enclosed, Doc.render_framed hd, hf, Doc.render_text, Doc.render_text,
          Fragment.ident_eq_raw (by simp), Fragment.ident_eq_raw (by simp),
          show "NOT (" = "NOT " ++ "(" from rfl, Fragment.raw_append]
        simp [n, spell, Row.parens, Infix.Token.spell, Fragment.append_assoc]
      rw [htext]
      refine .text n (by rw [survivors, hs]; rfl) fun op neg σ => ?_
      rw [value?, hv]
      rfl

theorem Shows.lone {e : Exclude} {s : Infix.Strength} {c i : Connective} {ms : List Predicate}
    {t u : Bool} {f : Fragment} (h : Shows e s (.group i ms u) f) :
    Shows e s (.group c [.group i ms u] t) f := by
  refine h.congr ?_ fun op neg σ => ?_
  · simp [survivors, memberSurvivors]
  · rw [value?]
    simp only [memberValues, List.append_nil]
    cases (group i ms u).value? e op neg σ <;> rfl

/-- The text of a predicate shows what is left of it, whole or within another predicate. -/
theorem Unmarked.shows {p : Predicate} (h : p.Unmarked) (e : Exclude) (w : Bool) :
    Shows e (if w then .loose else .operand) p (p.doc e w).render := by
  induction h generalizing w with
  | @leaf p hp =>
      have hdoc : p.doc e w = p.doc e false := by
        apply doc_eq_doc_false
        rintro c ms t rfl
        simp [isLeaf] at hp
      rw [hdoc]
      exact (shows_leaf hp e).loosen w
  | @group c ms hms ih =>
      rw [doc_group, Bool.or_false]
      cases hl : isLoneGroup ms with
      | true =>
          obtain ⟨i, ms, t, rfl⟩ := exists_of_isLoneGroup hl
          obtain rfl := (hms (.group i ms t) (by simp)).flag_eq
          have hm := ih (.group i ms false) (by simp) w
          rw [doc_group, Bool.or_false] at hm
          rw [groupDoc_lone]
          exact hm.lone
      | false =>
          rw [render_groupDoc_of_not_lone hl]
          exact shows_joinParts (fun m hm => ih m hm false) c w false
  | @negation p _ ih =>
      have hdoc : (Predicate.negation p).doc e w = .enclosed "NOT (" ")" (p.doc e true) := by
        simp only [Predicate.doc]
      rw [hdoc]
      exact (shows_negation (ih true)).loosen w

/-! ## Conditions and clauses -/

/-- A fragment means what is left of a predicate: it has no text if nothing is left, and otherwise
it is read in one way, as the leaves that are left under the meaning of the predicate. -/
def Means (e : Exclude) (p : Predicate) (f : Fragment) : Prop :=
  (f.isEmpty = true ↔ p.survivors e = []) ∧
    (p.survivors e ≠ [] → ∃ (words : List Word) (t : Formula), f = spell e words ∧
      (∀ u, Infix.Reads Connective.tight .loose words u ↔ u = t) ∧
      t.leaves = p.survivors e ∧
      ∀ {α : Type} (op : Connective → α → α → α) neg σ,
        p.value? e op neg σ = some (t.eval op neg σ))

theorem Shows.means {e : Exclude} {s : Infix.Strength} {p : Predicate} {f : Fragment}
    (h : Shows e s p f) : Means e p f := by
  cases h with
  | nothing hs _ => exact ⟨by simp [hs], fun h => absurd hs h⟩
  | text r hs hv =>
      have hne : r.formula.leaves ≠ [] := r.formula.leaves_ne_nil
      refine ⟨by simp [r.shown, hs, hne], fun _ => ?_⟩
      refine ⟨r.words, r.formula, rfl, fun u => ?_, hs.symm, hv⟩
      exact ⟨fun hu => hu.unique r.reads.alone, fun hu => hu ▸ r.reads.alone⟩

theorem means_withFlag {p : Predicate} (hp : (p.withFlag false).Unmarked) (e : Exclude) (w : Bool) :
    Means e p (p.doc e w).render := by
  have hdoc := doc_withFlag e w p.flag p
  rw [withFlag_flag] at hdoc
  rw [hdoc]
  refine ((hp.shows e (w || p.flag)).congr ?_ fun op neg σ => ?_).means
  · cases p <;> simp only [withFlag, survivors]
  · cases p <;> simp only [withFlag, value?]

/-- The text of conditions that must all hold, after a word; nothing if none of them is left. -/
def MeansAll (e : Exclude) (word : String) (ps : List Predicate) (d : Doc) : Prop :=
  ∃ body, Means e (all ps) body ∧
    d.render = if body.isEmpty then .empty else (Fragment.raw word).append body

theorem meansAll {ps : List Predicate} (h : ∀ p ∈ ps, p.Unmarked) (e : Exclude) {word : String}
    (hw : '?' ∉ word.toList) :
    MeansAll e word ps (.enclosed word "" (groupDoc e .and true ps)) := by
  have hs := (Unmarked.group (c := .and) h).shows e true
  rw [doc_group] at hs
  refine ⟨(groupDoc e .and true ps).render, hs.means, ?_⟩
  rw [Doc.enclosed]
  cases hd : (groupDoc e .and true ps).vanishes with
  | true => rw [Doc.render_eq_empty_of_framed hd, if_pos (by simpa [Doc.vanishes] using hd)]
  | false =>
      rw [Doc.render_framed hd, if_neg (by simpa [Doc.vanishes] using hd), Doc.render_text,
        Doc.render_text, Fragment.ident_eq_raw hw, Fragment.ident_eq_raw (by simp)]
      simp [Fragment.raw, Fragment.append]

theorem foldl_added {σ : Type} (add : σ → Predicate → σ) (addAll : σ → List Predicate → σ)
    (hnil : ∀ s, addAll s [] = s) (hcons : ∀ s p ps, addAll (add s p) ps = addAll s (p :: ps))
    (ps : List Predicate) (s : σ) : ps.foldl add s = addAll s ps := by
  induction ps generalizing s with
  | nil => exact (hnil s).symm
  | cons p ps ih => rw [List.foldl_cons, ih, hcons]

theorem foldl_conflictFilter (assignments : List Assignment) (ps qs : List Predicate) :
    ps.foldl ConflictAction.addFilter (.update assignments qs) =
      .update assignments (qs ++ ps) := by
  induction ps generalizing qs with
  | nil => simp
  | cons p ps ih => simp [ih, ConflictAction.addFilter]

/-- One of the clauses of a statement is made of conditions that must all hold. -/
def HasClause (word : String) (ps : List Predicate) (d : Doc) : Prop :=
  ∃ before c after, d = .clauses (before ++ c :: after) ∧ MeansAll .none word ps c

theorem hasClause {lay : List Predicate → Doc} {word : String}
    (hlay : ∃ before after, ∀ ps, lay ps =
      .clauses (before ++ .keyword word (groupDoc .none .and true ps) :: after))
    {ps : List Predicate} (h : ∀ p ∈ ps, p.Unmarked) (hw : '?' ∉ (word ++ " ").toList) :
    HasClause (word ++ " ") ps (lay ps) := by
  obtain ⟨before, after, hdoc⟩ := hlay
  rw [hdoc]
  exact ⟨before, _, after, rfl, meansAll h .none hw⟩

/-- The text of a predicate means what is left of its tree, and the text of the conditions of a
statement, a join or a conflict clause means that all that are left hold. -/
theorem text_means_tree {p : Predicate} (hp : (p.withFlag false).Unmarked) (e : Exclude)
    {qs ps : List Predicate} (h : ∀ q ∈ qs ++ ps, q.Unmarked) :
    (Means e p (p.render e) ∧ Means e p (p.renderTop e)) ∧
    (∀ s : Select, s.filters = qs → HasClause "WHERE " (qs ++ ps) (ps.foldl .addFilter s).doc) ∧
    (∀ s : Select, s.having = qs → HasClause "HAVING " (qs ++ ps) (ps.foldl .addHaving s).doc) ∧
    (∀ s : Update, s.filters = qs → HasClause "WHERE " (qs ++ ps) (ps.foldl .addFilter s).doc) ∧
    (∀ s : Delete, s.filters = qs → HasClause "WHERE " (qs ++ ps) (ps.foldl .addFilter s).doc) ∧
    (∀ j : Join, j.conditions = qs → j.kind ≠ .cross →
      ∃ target on, (ps.foldl .whenever j).doc = .follow target on ∧
        MeansAll .none " ON " (qs ++ ps) on) ∧
    ∀ (assignments : List Assignment) (target : Exclude), assignments ≠ [] →
      ∃ before filter, (ps.foldl .addFilter (ConflictAction.update assignments qs)).doc target =
        .seq (before ++ [filter]) ∧ MeansAll .none " WHERE " (qs ++ ps) filter := by
  refine ⟨⟨means_withFlag hp e false, means_withFlag hp e true⟩, ?_, ?_, ?_, ?_, ?_, ?_⟩
  · rintro s rfl
    rw [foldl_added Select.addFilter (fun s ps => { s with filters := s.filters ++ ps })
      (fun s => by cases s; simp) (fun s p ps => by simp [Select.addFilter])]
    exact hasClause s.doc_filters h (by simp)
  · rintro s rfl
    rw [foldl_added Select.addHaving (fun s ps => { s with having := s.having ++ ps })
      (fun s => by cases s; simp) (fun s p ps => by simp [Select.addHaving])]
    exact hasClause s.doc_having h (by simp)
  · rintro s rfl
    rw [foldl_added Update.addFilter (fun s ps => { s with filters := s.filters ++ ps })
      (fun s => by cases s; simp) (fun s p ps => by simp [Update.addFilter])]
    exact hasClause s.doc_filters h (by simp)
  · rintro s rfl
    rw [foldl_added Delete.addFilter (fun s ps => { s with filters := s.filters ++ ps })
      (fun s => by cases s; simp) (fun s p ps => by simp [Delete.addFilter])]
    exact hasClause s.doc_filters h (by simp)
  · rintro j rfl hk
    obtain ⟨target, hdoc⟩ := Join.doc_conditions hk
    rw [foldl_added Join.whenever (fun j ps => { j with conditions := j.conditions ++ ps })
      (fun j => by cases j; simp) (fun j p ps => by simp [Join.whenever]), hdoc]
    exact ⟨target, _, rfl, meansAll h .none (by simp)⟩
  · intro assignments target ha
    obtain ⟨before, hdoc⟩ := ConflictAction.doc_filters ha target
    rw [foldl_conflictFilter, hdoc]
    exact ⟨before, _, rfl, meansAll h .none (by simp)⟩

theorem disjunction_means_tree :
    Means .none ((raw "a").orElse (raw "b")).topLevel
      (((raw "a").orElse (raw "b")).topLevel.render .none) ∧
    ∃ target on, ((Join.ofKind .left (.reference ⟨"t", "t"⟩)).whenever (.negation (raw "a"))).doc =
      .follow target on ∧ MeansAll .none " ON " [.negation (raw "a")] on := by
  have hp : (((raw "a").orElse (raw "b")).topLevel.withFlag false).Unmarked := by
    refine .group fun m hm => ?_
    obtain rfl | rfl := by simpa using hm
    · exact .leaf rfl
    · exact .leaf rfl
  have hq : ∀ q ∈ [] ++ [Predicate.negation (raw "a")], q.Unmarked := by
    intro q hq
    obtain rfl := by simpa using hq
    exact .negation (.leaf rfl)
  obtain ⟨⟨hrender, _⟩, _, _, _, _, hjoin, _⟩ := text_means_tree hp .none hq
  exact ⟨hrender, hjoin (.ofKind .left (.reference ⟨"t", "t"⟩)) rfl (by decide)⟩

/-- A disjunction within a conjunction keeps its parentheses; an empty member leaves no trace. -/
example : ((all [any [raw "a", raw "b"], .negation (any []), raw "c"]).renderTop .none).sql =
    "(a OR b) AND c" := by rfl

end Predicate

end SqlCompose
