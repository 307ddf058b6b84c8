import SqlCompose.Proofs.Clauses
import SqlCompose.Proofs.Parts

/-!
# The order of calls

Each call on a statement is about one part of it, and the parts have their place in the text. So
statements on which the same calls are made, with those on each part in the same order, are sent as
the same text, with the clauses in the same order.
-/

namespace SqlCompose

/-! ## `SELECT` -/

namespace Select

inductive Group where
  | projections
  | distinct
  | ctes
  | sources
  | joins
  | filters
  | groupBy
  | having
  | orderBy
  | page
  | lock
  | label
  | dialect
  | nested
  deriving DecidableEq

namespace Group

/-- A drawn label depends on the namers and changes them, and so they belong to the label. -/
def Part : Group → Type
  | .projections => List Field
  | .distinct => Distinct
  | .ctes => List Cte
  | .sources => List TableSource
  | .joins => List Join
  | .filters => List Predicate
  | .groupBy => List Field
  | .having => List Predicate
  | .orderBy => List Field
  | .page => Option Int64 × Option Int64
  | .lock => Option Lock
  | .label => Option String × Naming
  | .dialect => Dialect
  | .nested => Bool

def get : (g : Group) → Select × Naming → g.Part
  | .projections, (s, _) => s.projections
  | .distinct, (s, _) => s.distinct
  | .ctes, (s, _) => s.ctes
  | .sources, (s, _) => s.sources
  | .joins, (s, _) => s.joins
  | .filters, (s, _) => s.filters
  | .groupBy, (s, _) => s.groupBy
  | .having, (s, _) => s.having
  | .orderBy, (s, _) => s.orderBy
  | .page, (s, _) => (s.limit, s.offset)
  | .lock, (s, _) => s.lock
  | .label, (s, n) => (s.label, n)
  | .dialect, (s, _) => s.dialect
  | .nested, (s, _) => s.nested

def set : (g : Group) → g.Part → Select × Naming → Select × Naming
  | .projections, v, (s, n) => ({ s with projections := v }, n)
  | .distinct, v, (s, n) => ({ s with distinct := v }, n)
  | .ctes, v, (s, n) => ({ s with ctes := v }, n)
  | .sources, v, (s, n) => ({ s with sources := v }, n)
  | .joins, v, (s, n) => ({ s with joins := v }, n)
  | .filters, v, (s, n) => ({ s with filters := v }, n)
  | .groupBy, v, (s, n) => ({ s with groupBy := v }, n)
  | .having, v, (s, n) => ({ s with having := v }, n)
  | .orderBy, v, (s, n) => ({ s with orderBy := v }, n)
  | .page, v, (s, n) => ({ s with limit := v.1, offset := v.2 }, n)
  | .lock, v, (s, n) => ({ s with lock := v }, n)
  | .label, v, (s, _) => ({ s with label := v.1 }, v.2)
  | .dialect, v, (s, n) => ({ s with dialect := v }, n)
  | .nested, v, (s, n) => ({ s with nested := v }, n)

end Group

def parts : Parts (Select × Naming) Group where
  Part := Group.Part
  get := Group.get
  set := Group.set
  get_set g v x := by cases g <;> rfl
  set_get g x := by
    obtain ⟨s, n⟩ := x
    cases s
    cases g <;> rfl
  get_set_of_ne {g h} v x hne := by cases g <;> cases h <;> first | rfl | exact absurd rfl hne

namespace Edit

/-- The part that a call is about. The namer for tables is none. -/
def group : Edit → Option Group
  | .columns _ => some .projections
  | .addColumn _ => some .projections
  | .selectOne => some .projections
  | .selectCount => some .projections
  | .distinctRows => some .distinct
  | .distinctBy _ => some .distinct
  | .addCte _ => some .ctes
  | .nameFrom _ => none
  | .addSource _ => some .sources
  | .addJoin _ => some .joins
  | .addFilter _ => some .filters
  | .addFilter? _ => some .filters
  | .addGroups _ => some .groupBy
  | .addHaving _ => some .having
  | .addOrder _ => some .orderBy
  | .takeRows _ => some .page
  | .skipRows _ => some .page
  | .paginate _ _ => some .page
  | .lockRows _ => some .lock
  | .lockTables _ => some .lock
  | .whenLocked _ => some .lock
  | .labelled _ => some .label
  | .inDialect _ => some .dialect
  | .asNested => some .nested

theorem changes {c : Edit} (h : c.effect.draws = false) :
    parts.Changes (fun x => (c.run x.1).run x.2) c.group := by
  cases c with
  | columns fields => exact ⟨fun _ => fields, fun _ => rfl⟩
  | addColumn f => exact ⟨fun (fs : List Field) => fs ++ [f], fun _ => rfl⟩
  | selectOne => exact ⟨fun _ => [.raw "1"], fun _ => rfl⟩
  | selectCount => exact ⟨fun _ => [Function.countAll], fun _ => rfl⟩
  | distinctRows => exact ⟨fun _ => .rows, fun _ => rfl⟩
  | distinctBy fields => exact ⟨fun _ => .byFields fields, fun _ => rfl⟩
  | addCte c => exact ⟨fun (cs : List Cte) => cs ++ [c], fun _ => rfl⟩
  | nameFrom namer =>
      intro g x
      cases g <;> rfl
  | addSource t =>
      refine ⟨fun (ts : List TableSource) => ts ++ [t], fun x => ?_⟩
      have hadd : x.1.addSource t = pure { x.1 with sources := x.1.sources ++ [t] } := by
        rw [Select.addSource, TableSource.ensureLabel_of_named h]
        rfl
      exact congrArg (fun m => m.run x.2) hadd
  | addJoin j =>
      refine ⟨fun (js : List Join) => js ++ [j], fun x => ?_⟩
      have hadd : x.1.addJoin j = pure { x.1 with joins := x.1.joins ++ [j] } := by
        rw [Select.addJoin, Join.ensureLabel_of_named h]
        rfl
      exact congrArg (fun m => m.run x.2) hadd
  | addFilter p => exact ⟨fun (ps : List Predicate) => ps ++ [p], fun _ => rfl⟩
  | addFilter? p =>
      cases p with
      | none => exact .of_unchanged fun _ => rfl
      | some p => exact ⟨fun (ps : List Predicate) => ps ++ [p], fun _ => rfl⟩
  | addGroups fields => exact ⟨fun (fs : List Field) => fs ++ fields, fun _ => rfl⟩
  | addHaving p => exact ⟨fun (ps : List Predicate) => ps ++ [p], fun _ => rfl⟩
  | addOrder f => exact ⟨fun (fs : List Field) => fs ++ [f], fun _ => rfl⟩
  | takeRows n => exact ⟨fun p => (some n, p.2), fun _ => rfl⟩
  | skipRows n => exact ⟨fun p => (p.1, some n), fun _ => rfl⟩
  | paginate page size =>
      let first := if page < 1 then 1 else page
      let rows := if size < 1 then 1 else size
      exact ⟨fun _ => (some rows, some ((first - 1) * rows)), fun _ => rfl⟩
  | lockRows strength => exact ⟨fun _ => some ⟨strength, [], .wait⟩, fun _ => rfl⟩
  | lockTables tables =>
      exact ⟨fun (l : Option Lock) => l.map fun l => { l with tables := tables }, fun _ => rfl⟩
  | whenLocked w =>
      exact ⟨fun (l : Option Lock) => l.map fun l => { l with wait := w }, fun _ => rfl⟩
  | labelled label => exact ⟨fun l => (some label, l.2), fun _ => rfl⟩
  | inDialect d => exact ⟨fun _ => d, fun _ => rfl⟩
  | asNested => exact ⟨fun _ => true, fun _ => rfl⟩

end Edit

/-- The calls that build a `SELECT`, also the one that draws its label. -/
inductive AnyEdit where
  | edit (c : Edit)
  | labelFrom (namer : NamerId)

namespace AnyEdit

def run (s : Select) : AnyEdit → StateM Naming Select
  | .edit c => c.run s
  | .labelFrom namer => s.labelFrom namer

def group : AnyEdit → Option Group
  | .edit c => c.group
  | .labelFrom _ => some .label

/-- Whether a call takes a statement without a name as a table. -/
def draws : AnyEdit → Bool
  | .edit c => c.effect.draws
  | .labelFrom _ => false

theorem changes {c : AnyEdit} (h : c.draws = false) :
    parts.Changes (fun x => (c.run x.1).run x.2) c.group := by
  cases c with
  | edit c => exact c.changes h
  | labelFrom namer =>
      refine ⟨fun l => match l with
        | (none, n) => (some ((Naming.draw namer).run n).1, ((Naming.draw namer).run n).2)
        | (some l, n) => (some l, n), fun x => ?_⟩
      obtain ⟨s, n⟩ := x
      cases s with
      | mk _ _ _ _ _ _ _ _ _ _ _ _ label _ _ _ => cases label <;> rfl

end AnyEdit

/-- Statements with the same parts are the same, but for their namers. -/
theorem eq_of_parts {x y : Select × Naming} (h : ∀ g, parts.get g x = parts.get g y) :
    x.1.nameFrom y.1.namer = y.1 ∧ x.2 = y.2 := by
  obtain ⟨s, n⟩ := x
  obtain ⟨t, m⟩ := y
  have hprojections : s.projections = t.projections := h .projections
  have hdistinct : s.distinct = t.distinct := h .distinct
  have hctes : s.ctes = t.ctes := h .ctes
  have hsources : s.sources = t.sources := h .sources
  have hjoins : s.joins = t.joins := h .joins
  have hfilters : s.filters = t.filters := h .filters
  have hgroupBy : s.groupBy = t.groupBy := h .groupBy
  have hhaving : s.having = t.having := h .having
  have horderBy : s.orderBy = t.orderBy := h .orderBy
  have hpage : (s.limit, s.offset) = (t.limit, t.offset) := h .page
  have hlock : s.lock = t.lock := h .lock
  have hlabel : (s.label, n) = (t.label, m) := h .label
  have hdialect : s.dialect = t.dialect := h .dialect
  have hnested : s.nested = t.nested := h .nested
  cases s
  cases t
  simp_all [nameFrom]

theorem eq_of_sameOrder {cs ds : List AnyEdit} (h : ∀ c ∈ cs ++ ds, c.draws = false)
    (hsame : SameOrder AnyEdit.group cs ds) (s : Select) (n : Naming) :
    let x := (cs.foldlM AnyEdit.run s).run n
    let y := (ds.foldlM AnyEdit.run s).run n
    x.1.nameFrom y.1.namer = y.1 ∧ x.2 = y.2 :=
  eq_of_parts (Parts.get_run_eq (fun c hc => AnyEdit.changes (h c hc)) hsame s n)

theorem build_nameFrom (s : Select) (namer : NamerId) :
    (Query.select (s.nameFrom namer)).build = (Query.select s).build := by
  cases s
  simp only [nameFrom, Query.build, Query.body, Query.dialect, Query.doc, Select.doc]

end Select

/-! ## `UPDATE` -/

namespace Update

/-- No call is about what is fixed: the target and the namers. -/
inductive Group where
  | fixed
  | ctes
  | assignments
  | sources
  | joins
  | filters
  | returning
  | label
  | dialect
  | nested
  deriving DecidableEq

namespace Group

def Part : Group → Type
  | .fixed => BaseTable × Naming
  | .ctes => List Cte
  | .assignments => List Assignment
  | .sources => List TableSource
  | .joins => List Join
  | .filters => List Predicate
  | .returning => List Field
  | .label => Option String
  | .dialect => Dialect
  | .nested => Bool

def get : (g : Group) → Update × Naming → g.Part
  | .fixed, (s, n) => (s.target, n)
  | .ctes, (s, _) => s.ctes
  | .assignments, (s, _) => s.assignments
  | .sources, (s, _) => s.sources
  | .joins, (s, _) => s.joins
  | .filters, (s, _) => s.filters
  | .returning, (s, _) => s.returning
  | .label, (s, _) => s.label
  | .dialect, (s, _) => s.dialect
  | .nested, (s, _) => s.nested

def set : (g : Group) → g.Part → Update × Naming → Update × Naming
  | .fixed, v, (s, _) => ({ s with target := v.1 }, v.2)
  | .ctes, v, (s, n) => ({ s with ctes := v }, n)
  | .assignments, v, (s, n) => ({ s with assignments := v }, n)
  | .sources, v, (s, n) => ({ s with sources := v }, n)
  | .joins, v, (s, n) => ({ s with joins := v }, n)
  | .filters, v, (s, n) => ({ s with filters := v }, n)
  | .returning, v, (s, n) => ({ s with returning := v }, n)
  | .label, v, (s, n) => ({ s with label := v }, n)
  | .dialect, v, (s, n) => ({ s with dialect := v }, n)
  | .nested, v, (s, n) => ({ s with nested := v }, n)

end Group

def parts : Parts (Update × Naming) Group where
  Part := Group.Part
  get := Group.get
  set := Group.set
  get_set g v x := by cases g <;> rfl
  set_get g x := by
    obtain ⟨s, n⟩ := x
    cases s
    cases g <;> rfl
  get_set_of_ne {g h} v x hne := by cases g <;> cases h <;> first | rfl | exact absurd rfl hne

namespace Edit

def group : Edit → Option Group
  | .addCte _ => some .ctes
  | .assign _ _ => some .assignments
  | .assign? _ _ => some .assignments
  | .assignRaw _ _ => some .assignments
  | .nameFrom _ => none
  | .addSource _ => some .sources
  | .addJoin _ => some .joins
  | .addFilter _ => some .filters
  | .addFilter? _ => some .filters
  | .addReturning _ => some .returning
  | .returningOne => some .returning
  | .labelled _ => some .label
  | .inDialect _ => some .dialect
  | .asNested => some .nested

theorem changes {c : Edit} (h : c.effect.draws = false) :
    parts.Changes (fun x => (c.run x.1).run x.2) c.group := by
  cases c with
  | addCte c => exact ⟨fun (cs : List Cte) => cs ++ [c], fun _ => rfl⟩
  | assign column value =>
      exact ⟨fun (as : List Assignment) => as ++ [⟨column, value⟩], fun _ => rfl⟩
  | assign? column value =>
      cases value with
      | none => exact .of_unchanged fun _ => rfl
      | some value => exact ⟨fun (as : List Assignment) => as ++ [⟨column, value⟩], fun _ => rfl⟩
  | assignRaw column sql =>
      exact ⟨fun (as : List Assignment) => as ++ [⟨column, .raw sql⟩], fun _ => rfl⟩
  | nameFrom namer =>
      intro g x
      cases g <;> rfl
  | addSource t =>
      refine ⟨fun (ts : List TableSource) => ts ++ [t], fun x => ?_⟩
      have hadd : x.1.addSource t = pure { x.1 with sources := x.1.sources ++ [t] } := by
        rw [Update.addSource, TableSource.ensureLabel_of_named h]
        rfl
      exact congrArg (fun m => m.run x.2) hadd
  | addJoin j =>
      refine ⟨fun (js : List Join) => js ++ [j], fun x => ?_⟩
      have hadd : x.1.addJoin j = pure { x.1 with joins := x.1.joins ++ [j] } := by
        rw [Update.addJoin, Join.ensureLabel_of_named h]
        rfl
      exact congrArg (fun m => m.run x.2) hadd
  | addFilter p => exact ⟨fun (ps : List Predicate) => ps ++ [p], fun _ => rfl⟩
  | addFilter? p =>
      cases p with
      | none => exact .of_unchanged fun _ => rfl
      | some p => exact ⟨fun (ps : List Predicate) => ps ++ [p], fun _ => rfl⟩
  | addReturning fields => exact ⟨fun (fs : List Field) => fs ++ fields, fun _ => rfl⟩
  | returningOne => exact ⟨fun _ => [.raw "1"], fun _ => rfl⟩
  | labelled label => exact ⟨fun _ => some label, fun _ => rfl⟩
  | inDialect d => exact ⟨fun _ => d, fun _ => rfl⟩
  | asNested => exact ⟨fun _ => true, fun _ => rfl⟩

end Edit

theorem eq_of_parts {x y : Update × Naming} (h : ∀ g, parts.get g x = parts.get g y) :
    x.1.nameFrom y.1.namer = y.1 ∧ x.2 = y.2 := by
  obtain ⟨s, n⟩ := x
  obtain ⟨t, m⟩ := y
  have hfixed : (s.target, n) = (t.target, m) := h .fixed
  have hctes : s.ctes = t.ctes := h .ctes
  have hassignments : s.assignments = t.assignments := h .assignments
  have hsources : s.sources = t.sources := h .sources
  have hjoins : s.joins = t.joins := h .joins
  have hfilters : s.filters = t.filters := h .filters
  have hreturning : s.returning = t.returning := h .returning
  have hlabel : s.label = t.label := h .label
  have hdialect : s.dialect = t.dialect := h .dialect
  have hnested : s.nested = t.nested := h .nested
  cases s
  cases t
  simp_all [nameFrom]

theorem eq_of_sameOrder {cs ds : List Edit} (h : ∀ c ∈ cs ++ ds, c.effect.draws = false)
    (hsame : SameOrder Edit.group cs ds) (s : Update) (n : Naming) :
    let x := (cs.foldlM Edit.run s).run n
    let y := (ds.foldlM Edit.run s).run n
    x.1.nameFrom y.1.namer = y.1 ∧ x.2 = y.2 :=
  eq_of_parts (Parts.get_run_eq (fun c hc => Edit.changes (h c hc)) hsame s n)

theorem build_nameFrom (s : Update) (namer : NamerId) :
    (Query.update (s.nameFrom namer)).build = (Query.update s).build := by
  cases s
  simp only [nameFrom, Query.build, Query.body, Query.dialect, Query.doc, Update.doc]

end Update

/-! ## `DELETE` -/

namespace Delete

/-- No call is about what is fixed: the target and the namers. -/
inductive Group where
  | fixed
  | ctes
  | sources
  | joins
  | filters
  | returning
  | label
  | dialect
  | nested
  deriving DecidableEq

namespace Group

def Part : Group → Type
  | .fixed => BaseTable × Naming
  | .ctes => List Cte
  | .sources => List TableSource
  | .joins => List Join
  | .filters => List Predicate
  | .returning => List Field
  | .label => Option String
  | .dialect => Dialect
  | .nested => Bool

def get : (g : Group) → Delete × Naming → g.Part
  | .fixed, (s, n) => (s.target, n)
  | .ctes, (s, _) => s.ctes
  | .sources, (s, _) => s.sources
  | .joins, (s, _) => s.joins
  | .filters, (s, _) => s.filters
  | .returning, (s, _) => s.returning
  | .label, (s, _) => s.label
  | .dialect, (s, _) => s.dialect
  | .nested, (s, _) => s.nested

def set : (g : Group) → g.Part → Delete × Naming → Delete × Naming
  | .fixed, v, (s, _) => ({ s with target := v.1 }, v.2)
  | .ctes, v, (s, n) => ({ s with ctes := v }, n)
  | .sources, v, (s, n) => ({ s with sources := v }, n)
  | .joins, v, (s, n) => ({ s with joins := v }, n)
  | .filters, v, (s, n) => ({ s with filters := v }, n)
  | .returning, v, (s, n) => ({ s with returning := v }, n)
  | .label, v, (s, n) => ({ s with label := v }, n)
  | .dialect, v, (s, n) => ({ s with dialect := v }, n)
  | .nested, v, (s, n) => ({ s with nested := v }, n)

end Group

def parts : Parts (Delete × Naming) Group where
  Part := Group.Part
  get := Group.get
  set := Group.set
  get_set g v x := by cases g <;> rfl
  set_get g x := by
    obtain ⟨s, n⟩ := x
    cases s
    cases g <;> rfl
  get_set_of_ne {g h} v x hne := by cases g <;> cases h <;> first | rfl | exact absurd rfl hne

namespace Edit

def group : Edit → Option Group
  | .addCte _ => some .ctes
  | .nameFrom _ => none
  | .addSource _ => some .sources
  | .addJoin _ => some .joins
  | .addFilter _ => some .filters
  | .addFilter? _ => some .filters
  | .addReturning _ => some .returning
  | .returningOne => some .returning
  | .labelled _ => some .label
  | .inDialect _ => some .dialect
  | .asNested => some .nested

theorem changes {c : Edit} (h : c.effect.draws = false) :
    parts.Changes (fun x => (c.run x.1).run x.2) c.group := by
  cases c with
  | addCte c => exact ⟨fun (cs : List Cte) => cs ++ [c], fun _ => rfl⟩
  | nameFrom namer =>
      intro g x
      cases g <;> rfl
  | addSource t =>
      refine ⟨fun (ts : List TableSource) => ts ++ [t], fun x => ?_⟩
      have hadd : x.1.addSource t = pure { x.1 with sources := x.1.sources ++ [t] } := by
        rw [Delete.addSource, TableSource.ensureLabel_of_named h]
        rfl
      exact congrArg (fun m => m.run x.2) hadd
  | addJoin j =>
      refine ⟨fun (js : List Join) => js ++ [j], fun x => ?_⟩
      have hadd : x.1.addJoin j = pure { x.1 with joins := x.1.joins ++ [j] } := by
        rw [Delete.addJoin, Join.ensureLabel_of_named h]
        rfl
      exact congrArg (fun m => m.run x.2) hadd
  | addFilter p => exact ⟨fun (ps : List Predicate) => ps ++ [p], fun _ => rfl⟩
  | addFilter? p =>
      cases p with
      | none => exact .of_unchanged fun _ => rfl
      | some p => exact ⟨fun (ps : List Predicate) => ps ++ [p], fun _ => rfl⟩
  | addReturning fields => exact ⟨fun (fs : List Field) => fs ++ fields, fun _ => rfl⟩
  | returningOne => exact ⟨fun _ => [.raw "1"], fun _ => rfl⟩
  | labelled label => exact ⟨fun _ => some label, fun _ => rfl⟩
  | inDialect d => exact ⟨fun _ => d, fun _ => rfl⟩
  | asNested => exact ⟨fun _ => true, fun _ => rfl⟩

end Edit

theorem eq_of_parts {x y : Delete × Naming} (h : ∀ g, parts.get g x = parts.get g y) :
    x.1.nameFrom y.1.namer = y.1 ∧ x.2 = y.2 := by
  obtain ⟨s, n⟩ := x
  obtain ⟨t, m⟩ := y
  have hfixed : (s.target, n) = (t.target, m) := h .fixed
  have hctes : s.ctes = t.ctes := h .ctes
  have hsources : s.sources = t.sources := h .sources
  have hjoins : s.joins = t.joins := h .joins
  have hfilters : s.filters = t.filters := h .filters
  have hreturning : s.returning = t.returning := h .returning
  have hlabel : s.label = t.label := h .label
  have hdialect : s.dialect = t.dialect := h .dialect
  have hnested : s.nested = t.nested := h .nested
  cases s
  cases t
  simp_all [nameFrom]

theorem eq_of_sameOrder {cs ds : List Edit} (h : ∀ c ∈ cs ++ ds, c.effect.draws = false)
    (hsame : SameOrder Edit.group cs ds) (s : Delete) (n : Naming) :
    let x := (cs.foldlM Edit.run s).run n
    let y := (ds.foldlM Edit.run s).run n
    x.1.nameFrom y.1.namer = y.1 ∧ x.2 = y.2 :=
  eq_of_parts (Parts.get_run_eq (fun c hc => Edit.changes (h c hc)) hsame s n)

theorem build_nameFrom (s : Delete) (namer : NamerId) :
    (Query.delete (s.nameFrom namer)).build = (Query.delete s).build := by
  cases s
  simp only [nameFrom, Query.build, Query.body, Query.dialect, Query.doc, Delete.doc]

end Delete

/-! ## All of them -/

/-- Statements on which the same calls are made, with those of each group in the same order, are the
same but for the namers of their tables, and have drawn the same names. They are sent as the same
text with the same values, in the order of the clauses. -/
theorem sent_in_order :
    (∀ (cs ds : List Select.AnyEdit), (∀ c ∈ cs ++ ds, c.draws = false) →
      SameOrder Select.AnyEdit.group cs ds → ∀ (s : Select) (n : Naming),
      let x := (cs.foldlM Select.AnyEdit.run s).run n
      let y := (ds.foldlM Select.AnyEdit.run s).run n
      (Query.select x.1).build = (Query.select y.1).build ∧
        x.1.nameFrom y.1.namer = y.1 ∧ x.2 = y.2) ∧
    (∀ (cs ds : List Update.Edit), (∀ c ∈ cs ++ ds, c.effect.draws = false) →
      SameOrder Update.Edit.group cs ds → ∀ (s : Update) (n : Naming),
      let x := (cs.foldlM Update.Edit.run s).run n
      let y := (ds.foldlM Update.Edit.run s).run n
      (Query.update x.1).build = (Query.update y.1).build ∧
        x.1.nameFrom y.1.namer = y.1 ∧ x.2 = y.2) ∧
    (∀ (cs ds : List Delete.Edit), (∀ c ∈ cs ++ ds, c.effect.draws = false) →
      SameOrder Delete.Edit.group cs ds → ∀ (s : Delete) (n : Naming),
      let x := (cs.foldlM Delete.Edit.run s).run n
      let y := (ds.foldlM Delete.Edit.run s).run n
      (Query.delete x.1).build = (Query.delete y.1).build ∧
        x.1.nameFrom y.1.namer = y.1 ∧ x.2 = y.2) ∧
    (∀ s : Select, SentAs (.select s) s.clauses) ∧
    (∀ s : Update, SentAs (.update s) s.clauses) ∧
    ∀ s : Delete, SentAs (.delete s) s.clauses := by
  refine ⟨fun cs ds h hsame s n => ?_, fun cs ds h hsame s n => ?_, fun cs ds h hsame s n => ?_,
    Select.sentAs_clauses, Update.sentAs_clauses, Delete.sentAs_clauses⟩
  · obtain ⟨hstatement, hnames⟩ := Select.eq_of_sameOrder h hsame s n
    refine ⟨?_, hstatement, hnames⟩
    rw [← hstatement, Select.build_nameFrom]
  · obtain ⟨hstatement, hnames⟩ := Update.eq_of_sameOrder h hsame s n
    refine ⟨?_, hstatement, hnames⟩
    rw [← hstatement, Update.build_nameFrom]
  · obtain ⟨hstatement, hnames⟩ := Delete.eq_of_sameOrder h hsame s n
    refine ⟨?_, hstatement, hnames⟩
    rw [← hstatement, Delete.build_nameFrom]

def users : TableSource := .base ((BaseTable.ofName "users").labelled "u")

def lastFirst : List Select.AnyEdit :=
  [.edit (.takeRows 5), .edit (.addOrder (Field.qualified "u" "created_at" .timestamp).desc),
    .edit (.addFilter (Field.qualified "u" "email" .string).isNotNull), .edit (.addSource users),
    .edit (.columns [.qualified "u" "id" .number]), .edit (.skipRows 10)]

def firstFirst : List Select.AnyEdit :=
  [.edit (.columns [.qualified "u" "id" .number]), .edit (.addSource users),
    .edit (.addFilter (Field.qualified "u" "email" .string).isNotNull),
    .edit (.addOrder (Field.qualified "u" "created_at" .timestamp).desc), .edit (.takeRows 5),
    .edit (.skipRows 10)]

def conditionFirst : List Update.Edit :=
  [.addFilter (Field.column "b" .bool).isTrue, .assign (.column "a" .number) (.raw "1")]

def conditionLast : List Update.Edit :=
  [.assign (.column "a" .number) (.raw "1"), .addFilter (Field.column "b" .bool).isTrue]

def returningFirst : List Delete.Edit :=
  [.returningOne, .addFilter (Field.column "b" .bool).isTrue]

def returningLast : List Delete.Edit :=
  [.addFilter (Field.column "b" .bool).isTrue, .returningOne]

theorem calls_exchanged :
    (let s := (Select.new.run .empty).1
      let x := (lastFirst.foldlM Select.AnyEdit.run s).run .empty
      let y := (firstFirst.foldlM Select.AnyEdit.run s).run .empty
      (Query.select x.1).build = (Query.select y.1).build ∧
        (Query.select x.1).build.sql =
          "SELECT u.id FROM users AS u WHERE u.email IS NOT NULL " ++
            "ORDER BY u.created_at DESC LIMIT $1 OFFSET $2") ∧
    (let s := ((Update.new (.ofName "t")).run .empty).1
      let x := (conditionFirst.foldlM Update.Edit.run s).run .empty
      let y := (conditionLast.foldlM Update.Edit.run s).run .empty
      (Query.update x.1).build = (Query.update y.1).build) ∧
    (let s := ((Delete.new (.ofName "t")).run .empty).1
      let x := (returningFirst.foldlM Delete.Edit.run s).run .empty
      let y := (returningLast.foldlM Delete.Edit.run s).run .empty
      (Query.delete x.1).build = (Query.delete y.1).build) := by
  obtain ⟨hselect, hupdate, hdelete, -⟩ := sent_in_order
  refine ⟨⟨(hselect lastFirst firstFirst (by decide) ?_ _ _).1, rfl⟩,
    (hupdate conditionFirst conditionLast (by decide) ?_ _ _).1,
    (hdelete returningFirst returningLast (by decide) ?_ _ _).1⟩
  · intro g
    cases g <;> rfl
  · intro g
    cases g <;> rfl
  · intro g
    cases g <;> rfl

end SqlCompose
