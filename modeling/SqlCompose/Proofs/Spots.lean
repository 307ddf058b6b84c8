import SqlCompose.Proofs.Joins
import SqlCompose.Proofs.Windows

/-!
# Places of fields

A place for a field is a part of a tree with a hole: an operand, an argument or a member of a list,
at any depth. The documents of such a part show the field, as it stands there, or hide it, because
what is around the place has no text or is left out.
-/

namespace SqlCompose

/-! ## Places -/

/-- A part of a tree that may hold a field. -/
inductive Host where
  | expr (x : Expr)
  | field (f : Field)
  | projection (f : Field)
  | template (text : String) (args : List Arg)
  | predicate (p : Predicate)
  | source (t : TableSource)
  | join (j : Join)
  | assignment (a : Assignment)
  | query (q : Query)

namespace Host

def doc (e : Exclude) (whole : Bool) : Host → Doc
  | .expr x => x.doc e
  | .field f => f.doc e
  | .projection f => f.projectionDoc e
  | .template text args => Template.doc text (argDocs e args)
  | .predicate p => p.doc e whole
  | .source t => t.doc
  | .join j => j.doc
  | .assignment a => a.doc e
  | .query q => q.doc

def label : Host → Option String
  | .source t => t.label
  | .query q => q.label
  | _ => none

/-- The document of a part that is the only member of a group, if it is a predicate. -/
def alone (e : Exclude) (c : Connective) (whole : Bool) : Host → Doc
  | .predicate p => groupDoc e c whole [p]
  | h => h.doc e whole

end Host

/-! ## Seats in statements

A part of the tree and the statement that has it in one of its clauses. The qualifiers that are
excluded within the clause come first. -/

inductive Select.Seat : Exclude → (Field → Host) → (Field → Select) → Prop where
  | ctes (q : Select) (c : Cte) (before after) (Q : Field → Query) :
      Seat .none (fun f => .query (Q f))
        fun f => { q with ctes := before ++ { c with query := Q f } :: after }
  | distinct (q : Select) (before after) (F : Field → Field) :
      Seat .none (fun f => .field (F f))
        fun f => { q with distinct := .byFields (before ++ F f :: after) }
  | projections (q : Select) (before after) (F : Field → Field) :
      Seat .none (fun f => .projection (F f))
        fun f => { q with projections := before ++ F f :: after }
  | sources (q : Select) (before after) (T : Field → TableSource) :
      Seat .none (fun f => .source (T f)) fun f => { q with sources := before ++ T f :: after }
  | joins (q : Select) (before after) (J : Field → Join) :
      Seat .none (fun f => .join (J f)) fun f => { q with joins := before ++ J f :: after }
  | filters (q : Select) (before after) (P : Field → Predicate) :
      Seat .none (fun f => .predicate (P f))
        fun f => { q with filters := before ++ P f :: after }
  | groupBy (q : Select) (before after) (F : Field → Field) :
      Seat .none (fun f => .field (F f)) fun f => { q with groupBy := before ++ F f :: after }
  | having (q : Select) (before after) (P : Field → Predicate) :
      Seat .none (fun f => .predicate (P f))
        fun f => { q with having := before ++ P f :: after }
  | orderBy (q : Select) (before after) (F : Field → Field) :
      Seat .none (fun f => .field (F f)) fun f => { q with orderBy := before ++ F f :: after }

inductive Insert.Seat : Exclude → Prop → (Field → Host) → (Field → Insert) → Prop where
  | ctes (q : Insert) (c : Cte) (before after) (Q : Field → Query) :
      Seat .none True (fun f => .query (Q f))
        fun f => { q with ctes := before ++ { c with query := Q f } :: after }
  | columns (q : Insert) (before after) (F : Field → Field) :
      Seat ⟨[q.target.qualifier]⟩ True (fun f => .field (F f))
        fun f => { q with columns := before ++ F f :: after }
  | values (q : Insert) (before after) (rows rest : List Tuple) (F : Field → Field) :
      Seat .none (q.source = .rows) (fun f => .field (F f))
        fun f => { q with rows := rows ++ ⟨before ++ F f :: after⟩ :: rest }
  | source (q : Insert) (Q : Field → Query) :
      Seat .none True (fun f => .query (Q f)) fun f => { q with source := .query (Q f) }
  | conflictColumns (q : Insert) (before after filters action) (F : Field → Field) :
      Seat ⟨[q.target.qualifier]⟩ True (fun f => .field (F f))
        fun f => { q with conflict := some ⟨.columns (before ++ F f :: after) filters, action⟩ }
  | conflictFilters (q : Insert) (before after fields action) (P : Field → Predicate) :
      Seat ⟨[q.target.qualifier]⟩ (∃ c ∈ fields, (c.render ⟨[q.target.qualifier]⟩).isEmpty = false)
        (fun f => .predicate (P f))
        fun f => { q with conflict := some ⟨.columns fields (before ++ P f :: after), action⟩ }
  | constraintFilters (q : Insert) (before after name action) (P : Field → Predicate) :
      Seat .none False (fun f => .predicate (P f))
        fun f => { q with conflict := some ⟨.constraint name (before ++ P f :: after), action⟩ }
  | assignments (q : Insert) (before after target filters) (A : Field → Assignment) :
      Seat ⟨[q.target.qualifier]⟩ True (fun f => .assignment (A f))
        fun f => { q with conflict := some ⟨target, .update (before ++ A f :: after) filters⟩ }
  | updateFilters (q : Insert) (before after target assignments) (P : Field → Predicate) :
      Seat .none (assignments ≠ []) (fun f => .predicate (P f))
        fun f => { q with conflict := some ⟨target, .update assignments (before ++ P f :: after)⟩ }
  | returning (q : Insert) (before after) (F : Field → Field) :
      Seat .none True (fun f => .projection (F f))
        fun f => { q with returning := before ++ F f :: after }

inductive Update.Seat : Exclude → Prop → (Field → Host) → (Field → Update) → Prop where
  | ctes (q : Update) (c : Cte) (before after) (Q : Field → Query) :
      Seat .none True (fun f => .query (Q f))
        fun f => { q with ctes := before ++ { c with query := Q f } :: after }
  | assignments (q : Update) (before after) (A : Field → Assignment) :
      Seat ⟨[q.target.qualifier]⟩ True (fun f => .assignment (A f))
        fun f => { q with assignments := before ++ A f :: after }
  | sources (q : Update) (before after) (T : Field → TableSource) :
      Seat .none True (fun f => .source (T f))
        fun f => { q with sources := before ++ T f :: after }
  | joins (q : Update) (before after) (J : Field → Join) :
      Seat .none (¬ Blank q.sources) (fun f => .join (J f))
        fun f => { q with joins := before ++ J f :: after }
  | filters (q : Update) (before after) (P : Field → Predicate) :
      Seat .none True (fun f => .predicate (P f))
        fun f => { q with filters := before ++ P f :: after }
  | returning (q : Update) (before after) (F : Field → Field) :
      Seat .none True (fun f => .projection (F f))
        fun f => { q with returning := before ++ F f :: after }

inductive Delete.Seat : Exclude → Prop → (Field → Host) → (Field → Delete) → Prop where
  | ctes (q : Delete) (c : Cte) (before after) (Q : Field → Query) :
      Seat .none True (fun f => .query (Q f))
        fun f => { q with ctes := before ++ { c with query := Q f } :: after }
  | sources (q : Delete) (before after) (T : Field → TableSource) :
      Seat .none True (fun f => .source (T f))
        fun f => { q with sources := before ++ T f :: after }
  | joins (q : Delete) (before after) (J : Field → Join) :
      Seat .none (¬ Blank q.sources) (fun f => .join (J f))
        fun f => { q with joins := before ++ J f :: after }
  | filters (q : Delete) (before after) (P : Field → Predicate) :
      Seat .none True (fun f => .predicate (P f))
        fun f => { q with filters := before ++ P f :: after }
  | returning (q : Delete) (before after) (F : Field → Field) :
      Seat .none True (fun f => .projection (F f))
        fun f => { q with returning := before ++ F f :: after }

inductive SetOperation.Seat : Exclude → (Field → Host) → (Field → SetOperation) → Prop where
  | head (q : SetOperation) (Q : Field → Query) :
      Seat .none (fun f => .query (Q f)) fun f => { q with head := Q f }
  | arms (q : SetOperation) (before operator after) (Q : Field → Query) :
      Seat .none (fun f => .query (Q f))
        fun f => { q with arms := before ++ ⟨operator, Q f⟩ :: after }
  | orderBy (q : SetOperation) (before after) (F : Field → Field) :
      Seat .none (fun f => .field (F f)) fun f => { q with orderBy := before ++ F f :: after }

inductive Query.Seat : Exclude → Prop → (Field → Host) → (Field → Query) → Prop where
  | select {e C} {S : Field → Select} (c : Select.Seat e C S) :
      Seat e True C fun f => .select (S f)
  | insert {e p C} {S : Field → Insert} (c : Insert.Seat e p C S) :
      Seat e p C fun f => .insert (S f)
  | update {e p C} {S : Field → Update} (c : Update.Seat e p C S) :
      Seat e p C fun f => .update (S f)
  | delete {e p C} {S : Field → Delete} (c : Delete.Seat e p C S) :
      Seat e p C fun f => .delete (S f)
  | setOperation {e C} {S : Field → SetOperation} (c : SetOperation.Seat e C S) :
      Seat e True C fun f => .setOperation (S f)

/-! ## Places of fields -/

/-- A place for a field in a part of a tree that is laid out with some qualifiers excluded, and how
the field stands there. -/
inductive Spot : Exclude → Prop → Standing → (Field → Host) → Prop where
  | hole {e} : Spot e True (.operand e) .field
  | projectedHole {e} : Spot e True (.projected e) .projection
  | field {e p s label order nulls} {X : Field → Expr} {type : Field → FieldType}
      (h : Spot e p s fun f => .expr (X f)) :
      Spot e p s fun f => .field ⟨X f, type f, label, order, nulls⟩
  | projection {e p s label order nulls} {X : Field → Expr} {type : Field → FieldType}
      (h : Spot e p s fun f => .expr (X f)) :
      Spot e p s fun f => .projection ⟨X f, type f, label, order, nulls⟩
  -- templates
  | fieldArg {e p s t} (before after) {F : Field → Field} (h : Spot e p s fun f => .field (F f)) :
      Spot e (p ∧ Template.Writes t before after) s fun f =>
        .template t (before ++ .field (F f) :: after)
  | predicateArg {e p s t} (before after) {P : Field → Predicate}
      (h : Spot e p s fun f => .predicate (P f)) :
      Spot e (p ∧ Template.Writes t before after) s fun f =>
        .template t (before ++ .predicate (P f) :: after)
  | tableArg {e p s t} (before after) {T : Field → TableSource}
      (h : Spot .none p s fun f => .source (T f)) :
      Spot e (p ∧ Template.Writes t before after) s fun f =>
        .template t (before ++ .table (T f) :: after)
  | queryArg {e p s t} (before after) {Q : Field → Query}
      (h : Spot .none p s fun f => .query (Q f)) :
      Spot e (p ∧ Template.Writes t before after) s fun f =>
        .template t (before ++ .query (Q f) :: after)
  | computed {e p s t} {as : Field → List Arg} (h : Spot e p s fun f => .template t (as f)) :
      Spot e p s fun f => .expr (.computed t (as f))
  | custom {e p s t} {as : Field → List Arg} (h : Spot e p s fun f => .template t (as f)) :
      Spot e p s fun f => .predicate (.custom t (as f))
  | customTable {e p s t label} {as : Field → List Arg}
      (h : Spot .none p s fun f => .template t (as f)) :
      Spot e p s fun f => .source (.custom ⟨t, as f, label⟩)
  -- predicates
  | unary {e p s op} {F : Field → Field} (h : Spot e p s fun f => .field (F f)) :
      Spot e p s fun f => .predicate (.unary (some (F f)) op)
  | left {e p s op rhs} {F : Field → Field} (h : Spot e p s fun f => .field (F f)) :
      Spot e p s fun f => .predicate (.binary (some (F f)) op rhs)
  | right {e p s lhs op} {F : Field → Field} (h : Spot e p s fun f => .field (F f)) :
      Spot e p s fun f => .predicate (.binary lhs op (some (F f)))
  | ranged {e p s op low high} {F : Field → Field} (h : Spot e p s fun f => .field (F f)) :
      Spot e p s fun f => .predicate (.ternary (some (F f)) op low high)
  | low {e p s operand op high} {F : Field → Field} (h : Spot e p s fun f => .field (F f)) :
      Spot e p s fun f => .predicate (.ternary operand op (some (F f)) high)
  | high {e p s operand op low} {F : Field → Field} (h : Spot e p s fun f => .field (F f)) :
      Spot e p s fun f => .predicate (.ternary operand op low (some (F f)))
  | member {e p s c before after t} {P : Field → Predicate}
      (h : Spot e p s fun f => .predicate (P f)) :
      Spot e p s fun f => .predicate (.group c (before ++ P f :: after) t)
  | negation {e p s} {P : Field → Predicate} (h : Spot e p s fun f => .predicate (P f)) :
      Spot e p s fun f => .predicate (.negation (P f))
  | existence {e p s negated} {Q : Field → Query} (h : Spot .none p s fun f => .query (Q f)) :
      Spot e p s fun f => .predicate (.existence (Q f) negated)
  -- tables, joins and assignments
  | cteTable {e p s} {c : Cte} {Q : Field → Query} (h : Spot .none p s fun f => .query (Q f)) :
      Spot e False s fun f => .source (.cte { c with query := Q f })
  | subquery {e p s} {Q : Field → Query} (h : Spot .none p s fun f => .query (Q f)) :
      Spot e p s fun f => .source (.query (Q f))
  | joinTarget {e p s} {j : Join} {T : Field → TableSource}
      (h : Spot .none p s fun f => .source (T f)) :
      Spot e p s fun f => .join { j with target := T f }
  | joinCondition {e p s before after} {j : Join} {P : Field → Predicate}
      (h : Spot .none p s fun f => .predicate (P f)) :
      Spot e (p ∧ j.kind ≠ .cross ∧ j.target.renderSource.isEmpty = false) s fun f =>
        .join { j with conditions := before ++ P f :: after }
  | assignedColumn {e p s value} {F : Field → Field} (h : Spot e p s fun f => .field (F f)) :
      Spot e (p ∧ (value.render .none).isEmpty = false) s fun f => .assignment ⟨F f, value⟩
  | assignedValue {e p s column} {F : Field → Field} (h : Spot .none p s fun f => .field (F f)) :
      Spot e p s fun f => .assignment ⟨column, F f⟩
  | clause {e e' p q s C Q} (c : Query.Seat e' q C Q) (h : Spot e' p s C) :
      Spot e (p ∧ q) s fun f => .query (Q f)

theorem Spot.field_argument {e : Exclude} {t : String} (before after : List Arg)
    (ht : before.length < Neutral.slotCount t) (hl : .list [] ∉ before ++ after) :
    Spot e True (.operand e) fun f => .template t (before ++ .field f :: after) := by
  have hwritten : (True ∧ Template.Writes t before after) = True :=
    eq_true ⟨trivial, ht, fun h => hl (List.mem_of_mem_take h)⟩
  exact hwritten ▸ .fieldArg before after .hole

/-! ## What places show -/

/-- All documents of a part of a tree show a field, as the field stands there, or hide it; and what
is said of the part elsewhere does not depend on the field. -/
structure Holds (e : Exclude) (p : Prop) (s : Standing) (C : Field → Host) : Prop where
  located : ∀ whole, Located p s fun f => (C f).doc e whole
  label : ∃ l, ∀ f, (C f).label = l
  alone : ∀ c whole, Located p s fun f => (C f).alone e c whole

namespace Holds

variable {e : Exclude} {p : Prop} {s : Standing}

theorem part {C : Field → Host} {l : Option String}
    (h : ∀ whole, Located p s fun f => (C f).doc e whole) (hlabel : ∀ f, (C f).label = l)
    (halone : ∀ c whole f, (C f).alone e c whole = (C f).doc e whole) : Holds e p s C :=
  ⟨h, ⟨l, hlabel⟩, fun c whole => (h whole).of_eq fun f => by rw [halone]⟩

theorem condition {P : Field → Predicate} (h : ∀ whole, Located p s fun f => (P f).doc e whole)
    (hP : ∀ f, isLoneGroup [P f] = false) : Holds e p s fun f => .predicate (P f) :=
  ⟨h, ⟨none, fun _ => rfl⟩, Located.alone hP (h false)⟩

theorem query {Q : Field → Query} {l : Option String} (h : Located p s fun f => (Q f).doc)
    (hlabel : ∀ f, (Q f).label = l) : Holds e p s fun f => .query (Q f) :=
  part (fun _ => h) hlabel fun _ _ _ => rfl

theorem source {T : Field → TableSource} (h : Holds e p s fun f => .source (T f)) :
    Located p s fun f => (T f).doc.named (T f).label := by
  obtain ⟨l, hlabel⟩ := h.label
  have hdoc : Located p s fun f => (T f).doc := h.located false
  refine (hdoc.named l).of_eq fun f => ?_
  rw [← hlabel f]
  rfl

theorem group {P : Field → Predicate} (h : Holds e p s fun f => .predicate (P f)) (c : Connective)
    (w : Bool) (before after : List Predicate) :
    Located p s fun f => groupDoc e c w (before ++ P f :: after) :=
  Located.group (h.located false) h.alone c w before after

end Holds

/-! ### Statements -/

theorem ConflictAction.doc_assignments (before after : List Assignment) (a : Assignment)
    (filters : List Predicate) (target : Exclude) :
    (ConflictAction.update (before ++ a :: after) filters).doc target =
      .seq [.text " DO UPDATE SET ", .list (assignmentDocs target (before ++ a :: after)),
        .enclosed " WHERE " "" (groupDoc .none .and true filters)] := by
  cases before <;> simp only [List.nil_append, List.cons_append, ConflictAction.doc, assignmentDocs]

theorem vanishes_fields (e : Exclude) (fs : List Field) :
    (Doc.list (fieldDocs e fs)).vanishes = false ↔ ∃ f ∈ fs, (f.render e).isEmpty = false := by
  rw [Doc.vanishes_list, fieldDocs_eq, List.all_map, List.all_eq_false]
  simp only [Function.comp_apply, Bool.not_eq_true]
  exact Iff.rfl

section Statements

variable {e : Exclude} {p q : Prop} {s : Standing} {C : Field → Host}

theorem Select.Seat.located {S : Field → Select} (c : Select.Seat e C S) (h : Holds e p s C) :
    Located p s fun f => (S f).doc := by
  have hdoc := h.located false
  cases c with simp only [Select.doc]
  | ctes q c before after Q =>
      exact ((Located.withClause before after c hdoc).keyword _).clauses [] _
  | distinct q before after F =>
      simp only [Distinct.doc]
      exact (((Located.fields before after hdoc).enclosed _ _).seq [_] _).clauses [_] _
  | projections q before after F =>
      exact (((Located.projections before after hdoc).orElse _).seq [_, _] _).clauses [_] _
  | sources q before after T =>
      exact ((Located.sources before after h.source).keyword _).clauses [_, _] _
  | joins q before after J => exact (Located.joins before after hdoc).clauses [_, _, _] _
  | filters q before after P =>
      exact ((h.group .and true before after).keyword _).clauses [_, _, _, _] _
  | groupBy q before after F =>
      exact ((Located.fields before after hdoc).keyword _).clauses [_, _, _, _, _] _
  | having q before after P =>
      exact ((h.group .and true before after).keyword _).clauses [_, _, _, _, _, _] _
  | orderBy q before after F =>
      exact ((Located.fields before after hdoc).keyword _).clauses [_, _, _, _, _, _, _] _

theorem Insert.Seat.located {S : Field → Insert} (c : Insert.Seat e q C S) (h : Holds e p s C) :
    Located (p ∧ q) s fun f => (S f).doc := by
  have hdoc := h.located false
  cases c with simp only [Insert.doc, and_true]
  | ctes q c before after Q =>
      exact ((Located.withClause before after c hdoc).keyword _).clauses [] _
  | columns q before after F =>
      exact (((Located.fields before after hdoc).enclosed _ _).seq [_, _] _).clauses [_] _
  | values q before after rows rest F =>
      have hrows (r : Tuple) : (rows ++ r :: rest).isEmpty = false := by simp
      simp only [hrows, Bool.false_eq_true, if_false]
      refine .provided (fun hsource => ?_) fun hsource => ?_
      · simp only [hsource, InsertSource.doc]
        exact ((Located.tuples before after rows rest hdoc).seq [_] _).clauses [_, _] _
      · cases hq : q.source with
        | rows => exact absurd hq hsource
        | query r =>
            simp only [InsertSource.doc]
            exact ⟨_, fun _ => rfl⟩
  | source q Q =>
      simp only [InsertSource.doc]
      exact Located.clauses [_, _] _ hdoc
  | conflictColumns q before after filters action F =>
      simp only [conflictDoc, Conflict.doc, ConflictTarget.doc]
      exact ((((Located.fields before after hdoc).enclosed _ _).framed _ _).seq [_] _).clauses
        [_, _, _] _
  | conflictFilters q before after fields action P =>
      simp only [conflictDoc, Conflict.doc, ConflictTarget.doc]
      refine Located.clauses [_, _, _] _ (Located.seq [_] _ ?_)
      refine (((h.group .and true before after).enclosed _ _).framed_after _ _).of_iff ?_
      rw [Doc.vanishes_enclosed, vanishes_fields]
  | constraintFilters q before after name action P =>
      simp only [conflictDoc, Conflict.doc, ConflictTarget.doc]
      exact .const (fun h => h.2) _
  | assignments q before after target filters A =>
      simp only [conflictDoc, Conflict.doc, ConflictAction.doc_assignments]
      exact (((Located.assignments before after hdoc).seq [_] _).seq [_, _] _).clauses [_, _, _] _
  | updateFilters q before after target assignments P =>
      simp only [conflictDoc, Conflict.doc]
      cases assignments with
      | nil =>
          simp only [ConflictAction.doc]
          exact .const (fun h => h.2 rfl) _
      | cons a rest =>
          simp only [ConflictAction.doc]
          refine Located.clauses [_, _, _] _ (Located.seq [_, _] [] (Located.seq [_, _] [] ?_))
          refine ((h.group .and true before after).enclosed _ _).of_iff ?_
          exact (and_iff_left (List.cons_ne_nil a rest)).symm
  | returning q before after F =>
      exact ((Located.projections before after hdoc).keyword _).clauses [_, _, _, _] _

theorem Update.Seat.located {S : Field → Update} (c : Update.Seat e q C S) (h : Holds e p s C) :
    Located (p ∧ q) s fun f => (S f).doc := by
  have hdoc := h.located false
  cases c with simp only [Update.doc, and_true]
  | ctes q c before after Q =>
      exact ((Located.withClause before after c hdoc).keyword _).clauses [] _
  | assignments q before after A =>
      exact ((Located.assignments before after hdoc).keyword _).clauses [_, _] _
  | sources q before after T =>
      exact (((Located.sources before after h.source).keyword _).framed _ _).clauses [_, _, _] _
  | joins q before after J =>
      refine Located.clauses [_, _, _] _ ?_
      refine (((Located.joins before after hdoc).enclosed _ _).framed_after _ _).of_iff ?_
      rw [Doc.vanishes_keyword, ← vanishes_sources, Bool.not_eq_true]
  | filters q before after P =>
      exact ((h.group .and true before after).keyword _).clauses [_, _, _, _] _
  | returning q before after F =>
      exact ((Located.projections before after hdoc).keyword _).clauses [_, _, _, _, _] _

theorem Delete.Seat.located {S : Field → Delete} (c : Delete.Seat e q C S) (h : Holds e p s C) :
    Located (p ∧ q) s fun f => (S f).doc := by
  have hdoc := h.located false
  cases c with simp only [Delete.doc, and_true]
  | ctes q c before after Q =>
      exact ((Located.withClause before after c hdoc).keyword _).clauses [] _
  | sources q before after T =>
      exact (((Located.sources before after h.source).keyword _).framed _ _).clauses [_, _] _
  | joins q before after J =>
      refine Located.clauses [_, _] _ ?_
      refine (((Located.joins before after hdoc).enclosed _ _).framed_after _ _).of_iff ?_
      rw [Doc.vanishes_keyword, ← vanishes_sources, Bool.not_eq_true]
  | filters q before after P =>
      exact ((h.group .and true before after).keyword _).clauses [_, _, _] _
  | returning q before after F =>
      exact ((Located.projections before after hdoc).keyword _).clauses [_, _, _, _] _

theorem SetOperation.Seat.located {S : Field → SetOperation} (c : SetOperation.Seat e C S)
    (h : Holds e p s C) : Located p s fun f => (S f).doc := by
  have hdoc := h.located false
  cases c with simp only [SetOperation.doc]
  | head q Q => exact (Located.seq [] _ (Located.enclosed _ _ hdoc)).clauses [] _
  | arms q before operator after Q =>
      simp only [armDocs_eq, List.map_append, List.map_cons, Arm.doc]
      exact ((hdoc.enclosed _ _).seq (_ :: before.map Arm.doc) _).clauses [] _
  | orderBy q before after F =>
      exact ((Located.fields before after hdoc).keyword _).clauses [_] _

theorem Query.Seat.located {Q : Field → Query} (c : Query.Seat e q C Q) (h : Holds e p s C) :
    Located (p ∧ q) s fun f => (Q f).doc := by
  cases c with simp only [Query.doc, and_true]
  | select c | insert c | update c | delete c | setOperation c => exact c.located h

theorem Query.Seat.label {Q : Field → Query} (c : Query.Seat e q C Q) :
    ∃ l, ∀ f, (Q f).label = l := by
  cases c with
  | select c | insert c | update c | delete c | setOperation c =>
      cases c <;> exact ⟨_, fun _ => rfl⟩

end Statements

theorem Spot.holds {e : Exclude} {p : Prop} {s : Standing} {C : Field → Host} (h : Spot e p s C) :
    Holds e p s C := by
  induction h with
  | hole | projectedHole =>
      refine .part (fun w => ?_) (fun _ => rfl) fun _ _ _ => rfl
      exact ⟨id, fun f => rfl, fun _ => Fragment.shows_id, fun h => absurd trivial h⟩
  | field h ih =>
      refine .part (fun w => ?_) (fun _ => rfl) fun _ _ _ => rfl
      simp only [Host.doc, Field.doc]
      exact (ih.located w).framed _ _
  | projection h ih =>
      refine .part (fun w => ?_) (fun _ => rfl) fun _ _ _ => rfl
      simp only [Host.doc, Field.projectionDoc]
      exact (ih.located w).named _
  | fieldArg before after h ih =>
      refine .part (fun w => ?_) (fun _ => rfl) fun _ _ _ => rfl
      exact (ih.located w).argument _ _ _ fun _ => by simp only [Arg.doc?, Host.doc]
  | predicateArg before after h ih =>
      refine .part (fun _ => ?_) (fun _ => rfl) fun _ _ _ => rfl
      exact (ih.located false).argument _ _ _ fun _ => by simp only [Arg.doc?, Host.doc]
  | tableArg before after h ih =>
      refine .part (fun w => ?_) (fun _ => rfl) fun _ _ _ => rfl
      exact (ih.located w).argument _ _ _ fun _ => by simp only [Arg.doc?, Host.doc]
  | queryArg before after h ih =>
      refine .part (fun w => ?_) (fun _ => rfl) fun _ _ _ => rfl
      exact (ih.located w).argument _ _ _ fun _ => by simp only [Arg.doc?, Host.doc]
  | computed h ih =>
      refine .part (fun w => ?_) (fun _ => rfl) fun _ _ _ => rfl
      simp only [Host.doc, Expr.doc]
      exact ih.located w
  | custom h ih =>
      refine .condition (fun w => ?_) fun _ => rfl
      simp only [Predicate.doc]
      exact ih.located w
  | @customTable e p s t label as h ih =>
      refine .part (l := CustomTable.visibleLabel ⟨t, [], label⟩) (fun w => ?_) (fun _ => rfl)
        fun _ _ _ => rfl
      simp only [Host.doc, TableSource.doc, CustomTable.doc]
      exact ih.located w
  | unary h ih =>
      refine .condition (fun w => ?_) fun _ => rfl
      simp only [Predicate.doc]
      exact (Located.operand (ih.located w)).seq [] _
  | left h ih =>
      refine .condition (fun w => ?_) fun _ => rfl
      simp only [Predicate.doc]
      exact (Located.operand (ih.located w)).seq [] _
  | right h ih =>
      refine .condition (fun w => ?_) fun _ => rfl
      simp only [Predicate.doc]
      exact (Located.operand (ih.located w)).seq [_, _, _, _] _
  | ranged h ih =>
      refine .condition (fun w => ?_) fun _ => rfl
      simp only [Predicate.doc]
      exact (Located.operand (ih.located w)).seq [] _
  | low h ih =>
      refine .condition (fun w => ?_) fun _ => rfl
      simp only [Predicate.doc]
      exact (Located.operand (ih.located w)).seq [_, _, _, _] _
  | high h ih =>
      refine .condition (fun w => ?_) fun _ => rfl
      simp only [Predicate.doc]
      exact (Located.operand (ih.located w)).seq [_, _, _, _, _, _] _
  | @member e p s c before after t P h ih =>
      refine ⟨fun w => ?_, ⟨none, fun _ => rfl⟩, fun _ w => ?_⟩
      · simp only [Host.doc, Predicate.doc]
        exact ih.group c (w || t) before after
      · simp only [Host.alone, groupDoc_lone]
        exact ih.group c w before after
  | negation h ih =>
      refine .condition (fun w => ?_) fun _ => rfl
      simp only [Predicate.doc]
      exact (ih.located true).enclosed _ _
  | existence h ih =>
      refine .condition (fun w => ?_) fun _ => rfl
      simp only [Predicate.doc]
      exact (ih.located w).enclosed _ _
  | cteTable h ih =>
      refine .part (fun w => ?_) (fun _ => rfl) fun _ _ _ => rfl
      simp only [Host.doc, TableSource.doc]
      exact .const not_false _
  | subquery h ih =>
      obtain ⟨l, hlabel⟩ := ih.label
      refine .part (fun w => ?_) hlabel fun _ _ _ => rfl
      simp only [Host.doc, TableSource.doc]
      exact (ih.located w).enclosed _ _
  | joinTarget h ih =>
      refine .part (fun w => ?_) (fun _ => rfl) fun _ _ _ => rfl
      simp only [Host.doc, Join.doc]
      exact (ih.source.enclosed _ _).framed _ _
  | @joinCondition e p s before after j P h ih =>
      refine .part (fun w => ?_) (fun _ => rfl) fun _ _ _ => rfl
      simp only [Host.doc, Join.doc]
      refine .provided (fun hjoined => ?_) fun hidden => ?_
      · obtain ⟨hkind, htarget⟩ := hjoined
        simp only [if_neg hkind]
        refine Located.framed_after_of ?_ _ ((ih.group .and true before after).enclosed _ _)
        rw [Doc.vanishes_enclosed]
        exact htarget
      · by_cases hkind : j.kind = .cross
        · simp only [if_pos hkind]
          exact ⟨_, fun _ => rfl⟩
        · refine ⟨.empty, fun f => Doc.render_eq_empty_of_framed ?_⟩
          rw [Doc.vanishes_enclosed]
          exact Bool.of_not_eq_false fun htarget => hidden ⟨hkind, htarget⟩
  | assignedColumn h ih =>
      refine .part (fun w => ?_) (fun _ => rfl) fun _ _ _ => rfl
      simp only [Host.doc, Assignment.doc]
      exact ((ih.located w).seq [] _).framed_before _ _
  | assignedValue h ih =>
      refine .part (fun w => ?_) (fun _ => rfl) fun _ _ _ => rfl
      simp only [Host.doc, Assignment.doc]
      exact (ih.located w).framed _ _
  | clause c h ih =>
      obtain ⟨l, hlabel⟩ := c.label
      exact .query (c.located ih) hlabel

end SqlCompose
