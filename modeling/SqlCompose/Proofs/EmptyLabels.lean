import SqlCompose.Proofs.Literal
import SqlCompose.Proofs.Workbench

/-!
# Empty labels

A table of the database and a table expression take the empty label for none. A statement, a second
reference to a common table expression and a field keep it: nothing stands after their `AS`, and
such a statement gets no name among the tables of another. The empty label comes from whoever gives
it or from a list of names that has an empty one; no other namer draws it.
-/

namespace SqlCompose

/-! ## Names that are drawn -/

theorem Namer.next_eq_empty_iff (m : Namer) :
    m.next.1 = "" ↔ ∃ names k, m = .cycling names k ∧
      (names = [] ∨ names[k % names.length]? = some "") := by
  cases m with
  | counted stem k => simp [next]
  | scattered stem source =>
      have hdigits (n : Nat) : twelveDigits n ≠ "" := by
        intro h
        have hlength := congrArg String.length h
        simp [twelveDigits] at hlength
      simp [next, hdigits]
  | cycling names k =>
      by_cases h : names = []
      · simp [next, h]
      · have hk : k % names.length < names.length := Nat.mod_lt _ (List.length_pos_iff.mpr h)
        simp [next, h, hk]

theorem Naming.draw_eq_empty_iff (id : NamerId) (n : Naming) :
    ((Naming.draw id).run n).1 = "" ↔ ∀ m, n.namers[id.index]? = some m → m.next.1 = "" := by
  cases h : n.namers[id.index]? with
  | none => simp [Naming.draw, StateT.run, h]
  | some m => simp [Naming.draw, StateT.run, h]

/-! ## Labels that are given -/

namespace TableSource

/-- Gives a table a label. For a common table expression and for a reference to one, that makes a
reference. -/
def relabelled (label : String) : TableSource → TableSource
  | .base t => .base (t.labelled label)
  | .cte c => .reference (c.reference label)
  | .reference c => .reference { c with label := label }
  | .query q => .query (q.labelled label)
  | .custom t => .custom { t with label := some label }

def dropsEmpty : TableSource → Bool
  | .base _ => true
  | .custom _ => true
  | _ => false

/-- A table, and the same table under no label. -/
inductive Unlabelled : TableSource → TableSource → Prop where
  | base (t : BaseTable) : Unlabelled (.base t) (.base { t with label := none })
  | cte (c : Cte) : Unlabelled (.cte c) (.cte c)
  | reference {r : CteReference} {c : Cte} (h : r.name = c.name) :
    Unlabelled (.reference r) (.cte c)
  | select (s : Select) :
    Unlabelled (.query (.select s)) (.query (.select { s with label := none }))
  | insert (s : Insert) :
    Unlabelled (.query (.insert s)) (.query (.insert { s with label := none }))
  | update (s : Update) :
    Unlabelled (.query (.update s)) (.query (.update { s with label := none }))
  | delete (s : Delete) :
    Unlabelled (.query (.delete s)) (.query (.delete { s with label := none }))
  | setOperation (s : SetOperation) :
    Unlabelled (.query (.setOperation s)) (.query (.setOperation { s with label := none }))
  | custom (t : CustomTable) : Unlabelled (.custom t) (.custom { t with label := none })

/-- Two tables with the same text and the same names, both of which get a name among the tables of a
statement or neither. -/
structure Alike (t u : TableSource) : Prop where
  label : t.label = u.label
  name : t.name = u.name
  text : t.render = u.render
  source : t.renderSource = u.renderSource
  unnamed : t.unnamed = u.unnamed

theorem label_relabelled (t : TableSource) (l : String) :
    (t.relabelled l).label = if t.dropsEmpty then nonempty? l else some l := by
  cases t with
  | query q => exact Query.label_labelled l q
  | _ => rfl

theorem label_relabelled_eq_empty_iff (t : TableSource) (l : String) :
    (t.relabelled l).label = some "" ↔ l = "" ∧ t.dropsEmpty = false := by
  rw [label_relabelled]
  cases t.dropsEmpty with
  | true => by_cases h : l = "" <;> simp [nonempty?, h]
  | false => simp

theorem Unlabelled.label_eq_none {t u : TableSource} (h : Unlabelled t u) : u.label = none := by
  cases h <;> rfl

theorem Unlabelled.alike_iff {t u : TableSource} (h : Unlabelled t u) :
    Alike (t.relabelled "") u ↔ t.dropsEmpty = true := by
  refine ⟨fun ha => ?_, fun hd => ?_⟩
  · have hlabel := ha.label
    rw [label_relabelled, h.label_eq_none] at hlabel
    cases hd : t.dropsEmpty with
    | true => rfl
    | false => simp [hd] at hlabel
  · cases h with
    | base t => exact ⟨rfl, rfl, rfl, rfl, rfl⟩
    | custom t =>
        refine ⟨rfl, rfl, ?_, ?_, rfl⟩
        · simp only [relabelled, render, TableSource.doc, CustomTable.doc]
        · simp only [relabelled, renderSource, TableSource.doc, CustomTable.doc]
          rfl
    | _ => simp [dropsEmpty] at hd

end TableSource

/-- Whether a table or a field is written with an `AS` and nothing after it. -/
def Dangles (plain labelled : Fragment) : Prop := labelled.sql = plain.sql ++ " AS "

theorem dangles_named_iff (d : Doc) (label : Option String) :
    Dangles d.render (d.named label).render ↔ label = some "" ∧ d.vanishes = false := by
  cases label with
  | none =>
      have hlonger : d.render.sql ≠ d.render.sql ++ " AS " := by
        intro h
        have hlength := congrArg String.length h
        rw [String.length_append] at hlength
        have hwords : " AS ".length = 4 := rfl
        omega
      simp only [Dangles, Doc.named, hlonger, reduceCtorEq, false_and]
  | some s =>
      cases h : d.vanishes with
      | true =>
          have hnamed : (d.named (some s)).vanishes = true := by rw [Doc.vanishes_named, h]
          rw [Dangles, Doc.render_eq_empty _ hnamed, Doc.render_eq_empty _ h]
          simp
      | false =>
          have hsql := Place.sql_named h s
          rw [Doc.sql, Doc.sql] at hsql
          rw [Dangles, hsql]
          simp

theorem Field.renderProjection_eq (f : Field) (e : Exclude) :
    f.renderProjection e = ((f.expr.doc e).named f.label).render := by
  cases f
  rw [renderProjection, projectionDoc]

theorem Field.renderProjection_labelled_empty_iff (f : Field) (e : Exclude) :
    (f.labelled "").renderProjection e = ({ f with label := none } : Field).renderProjection e ↔
      (f.expr.doc e).vanishes = true := by
  rw [labelled, renderProjection_eq, renderProjection_eq]
  simp only
  cases h : (f.expr.doc e).vanishes with
  | true =>
      have hnamed : ((f.expr.doc e).named (some "")).vanishes = true := by
        rw [Doc.vanishes_named, h]
      rw [Doc.render_eq_empty _ hnamed, Doc.named, Doc.render_eq_empty _ h]
      exact ⟨fun _ => rfl, fun _ => rfl⟩
  | false =>
      -- the text under the empty label would dangle after itself
      refine ⟨fun heq => ?_, fun h => by cases h⟩
      have hdangles := (dangles_named_iff (f.expr.doc e) (some "")).mpr ⟨rfl, h⟩
      rw [heq, dangles_named_iff] at hdangles
      cases hdangles.1

/-! ## Labels among the tables of a statement -/

theorem TableSource.label_ensureLabel_iff (t : TableSource) (namer : NamerId) (n : Naming) :
    ((t.ensureLabel namer).run n).1.label = some "" ↔
      t.label = some "" ∨ t.unnamed = true ∧ ((Naming.draw namer).run n).1 = "" := by
  rcases t.ensureLabel_cases namer n with ⟨ht, h⟩ | ⟨q, rfl, hq, h⟩
  · simp [h, ht]
  · simp [h, unnamed, isQuery, label, hq, Query.label_labelled]

theorem TableSource.ensureLabel_of_label {t : TableSource} (h : t.label.isSome = true)
    (namer : NamerId) (n : Naming) : (t.ensureLabel namer).run n = (t, n) := by
  rcases t.ensureLabel_cases namer n with ⟨-, hrun⟩ | ⟨q, rfl, hq, -⟩
  · exact hrun
  · simp [label, hq] at h

theorem Select.label_labelFrom_iff (s : Select) (namer : NamerId) (n : Naming) :
    ((s.labelFrom namer).run n).1.label = some "" ↔
      s.label = some "" ∨ s.label = none ∧ ((Naming.draw namer).run n).1 = "" := by
  cases h : s.label with
  | none =>
      have hrun : ((s.labelFrom namer).run n).1 = s.labelled ((Naming.draw namer).run n).1 := by
        simp only [labelFrom, h]
        rfl
      simp [hrun, labelled]
  | some l =>
      have hrun : ((s.labelFrom namer).run n).1 = s := by
        simp only [labelFrom, h]
        rfl
      simp [hrun, h]

/-- A draft that was made by taking some tables, and the names drawn for them. Anything may be done
to the namers between two edits. -/
inductive Draft.Made : List TableSource → List String → Draft → Prop where
  | new (k : Kind) (n : Naming) : Made [] [] ((Draft.new k).run n).1
  | edit {given : List TableSource} {drawn : List String} {d : Draft} (h : Made given drawn d)
    {c : Edit} {m : StateM Naming Draft} (hm : d.run c = some m) (n : Naming) :
    Made (given ++ c.effect.table?.toList)
      (drawn ++ if c.effect.draws then [((Naming.draw d.tables.namer).run n).1] else [])
      (m.run n).1

/-- By an edit, the tables gain an empty label if the table has one or gets one. -/
theorem Tables.exists_empty_apply_iff (ts : Tables) (ef : Effect) (n : Naming) :
    (∃ t ∈ ((ts.apply ef).run n).1.all, t.label = some "") ↔
      (∃ t ∈ ts.all, t.label = some "") ∨ (∃ t ∈ ef.table?.toList, t.label = some "") ∨
        ef.draws = true ∧ ((Naming.draw ts.namer).run n).1 = "" := by
  cases ef with
  | source t =>
      have hall : ((ts.apply (.source t)).run n).1.all =
          ts.sources ++ [((t.ensureLabel ts.namer).run n).1] ++ ts.joins.map Join.target := rfl
      rw [hall]
      simp only [all, List.mem_append, or_and_right, exists_or, List.mem_singleton, exists_eq_left,
        t.label_ensureLabel_iff, Effect.table?, Effect.draws, Option.toList_some, Option.any_some]
      exact or_right_comm
  | join j =>
      have hall : ((ts.apply (.join j)).run n).1.all =
          ts.sources ++ (ts.joins ++ [{ j with
            target := ((j.target.ensureLabel ts.namer).run n).1 }]).map Join.target := rfl
      rw [hall]
      simp only [all, List.map_append, List.map_singleton, List.mem_append, or_and_right, exists_or,
        List.mem_singleton, exists_eq_left, j.target.label_ensureLabel_iff, Effect.table?,
        Effect.draws, Option.toList_some, Option.any_some]
      exact or_assoc.symm
  | _ =>
      simp only [Effect.table?, Effect.draws, Option.toList_none, Option.any_none]
      simp
      rfl

theorem Draft.Made.exists_empty_iff {given : List TableSource} {drawn : List String} {d : Draft}
    (h : Made given drawn d) :
    (∃ t ∈ d.tables.all, t.label = some "") ↔ (∃ t ∈ given, t.label = some "") ∨ "" ∈ drawn := by
  induction h with
  | new k n => simp [(tables_new k n).1, Tables.all]
  | @edit given drawn d h c m hm n ih =>
      have htables : (m.run n).1.tables = ((d.tables.apply c.effect).run n).1 := by
        rw [← tables_run hm]
        rfl
      have hdrawn : "" ∈ (if c.effect.draws then [((Naming.draw d.tables.namer).run n).1] else []) ↔
          c.effect.draws = true ∧ ((Naming.draw d.tables.namer).run n).1 = "" := by
        cases c.effect.draws with
        | false => simp
        | true => rw [if_pos rfl, List.mem_singleton, eq_comm, and_iff_right rfl]
      rw [htables, Tables.exists_empty_apply_iff, ih, List.mem_append, hdrawn]
      simp only [List.mem_append, or_and_right, exists_or]
      exact or_or_or_comm

/-- The empty label is no label exactly for a table of the database and a table expression. Every
other table keeps it, and so does a field: an `AS` stands at the end of the text exactly if the
label is empty, and a statement under the empty label gets no name. Among the tables of a draft a
label is empty exactly if it was given or drawn so. Only a list of names gives the empty name, and a
namer that does not exist. -/
theorem empty_label_kept_iff (t : TableSource) (f : Field) (e : Exclude) (namer : NamerId)
    (n : Naming) :
    (∀ u, t.Unlabelled u → u.label = none ∧ ((t.relabelled "").Alike u ↔ t.dropsEmpty = true)) ∧
    (∀ l, (t.relabelled l).label = some "" ↔ l = "" ∧ t.dropsEmpty = false) ∧
    (Dangles t.render t.renderSource ↔ t.label = some "" ∧ t.render.isEmpty = false) ∧
    (Dangles (({ f with label := none } : Field).renderProjection e) (f.renderProjection e) ↔
      f.label = some "" ∧ (f.expr.doc e).vanishes = false) ∧
    ((f.labelled "").renderProjection e = ({ f with label := none } : Field).renderProjection e ↔
      (f.expr.doc e).vanishes = true) ∧
    (t.label = some "" → (t.ensureLabel namer).run n = (t, n)) ∧
    (((t.ensureLabel namer).run n).1.label = some "" ↔
      t.label = some "" ∨ t.unnamed = true ∧ ((Naming.draw namer).run n).1 = "") ∧
    (∀ s : Select, ((s.labelFrom namer).run n).1.label = some "" ↔
      s.label = some "" ∨ s.label = none ∧ ((Naming.draw namer).run n).1 = "") ∧
    (((Naming.draw namer).run n).1 = "" ↔ ∀ m, n.namers[namer.index]? = some m →
      ∃ names k, m = .cycling names k ∧ (names = [] ∨ names[k % names.length]? = some "")) ∧
    ∀ given drawn d, Draft.Made given drawn d → ((∃ t ∈ d.tables.all, t.label = some "") ↔
      (∃ t ∈ given, t.label = some "") ∨ "" ∈ drawn) := by
  refine ⟨fun u h => ⟨h.label_eq_none, h.alike_iff⟩, t.label_relabelled_eq_empty_iff,
    dangles_named_iff t.doc t.label, ?_, f.renderProjection_labelled_empty_iff e, fun h => ?_,
    t.label_ensureLabel_iff namer n, fun s => s.label_labelFrom_iff namer n, ?_,
    fun _ _ _ => Draft.Made.exists_empty_iff⟩
  · rw [f.renderProjection_eq, Field.renderProjection_eq]
    exact dangles_named_iff (f.expr.doc e) f.label
  · exact t.ensureLabel_of_label (by rw [h]; rfl) namer n
  · simp only [Naming.draw_eq_empty_iff, Namer.next_eq_empty_iff]

/-- A selection from a statement, which was given a label, of a field that was given one. -/
def underLabels (field statement : String) : StateM Naming Select := do
  let inner ← Select.new
  let outer ← Select.new
  let s ← outer.addSource (.query ((inner.addColumn (.raw "a")).labelled statement).embedded)
  return s.addColumn ((Field.raw "b").labelled field)

theorem empty_labels_dangle :
    ((underLabels "" "").run .empty).1.doc.sql = "SELECT b AS  FROM (SELECT a) AS " ∧
    ((underLabels "" "").run .empty).1.sources.map TableSource.label = [some ""] := by
  refine ⟨by rfl, by rfl⟩

end SqlCompose
