import SqlCompose.Proofs.Drafts
import SqlCompose.Proofs.Layout

/-!
# The workbench

Programs that build statements run on a workbench: drafts, which may be copies of one another, and
the namers that they share. Every step of such a program is followed, and every name that a table
gets is written down together with the namer it came from.
-/

namespace SqlCompose

/-! ## Tables -/

namespace TableSource

def unnamed (t : TableSource) : Bool := t.isQuery && t.label.isNone

/-- A table in a statement is the table that was given, unless that was a statement without a label:
then it is that statement under some label. -/
inductive Kept : TableSource → TableSource → Prop where
  | same {t : TableSource} (h : t.unnamed = false) : Kept t t
  | labelled {q : Query} (h : q.label = none) (name : String) :
    Kept (.query q) (.query (q.labelled name))

/-- The label that a table has got since it was given. -/
def gained (given stored : TableSource) : List String :=
  if given.label.isNone then stored.label.toList else []

theorem Kept.not_unnamed {given stored : TableSource} (h : Kept given stored) :
    stored.unnamed = false := by
  cases h with
  | same h => exact h
  | labelled h name => simp [unnamed, label, Query.label_labelled]

theorem ensureLabel_cases (namer : NamerId) (t : TableSource) (n : Naming) :
    (t.unnamed = false ∧ (t.ensureLabel namer).run n = (t, n)) ∨
      ∃ q, t = .query q ∧ q.label = none ∧ (t.ensureLabel namer).run n =
        (.query (q.labelled ((Naming.draw namer).run n).1), ((Naming.draw namer).run n).2) := by
  cases t with
  | query q =>
      cases h : q.label with
      | none =>
          refine .inr ⟨q, rfl, h, ?_⟩
          simp only [ensureLabel, h]
          rfl
      | some l =>
          refine .inl ⟨by simp [unnamed, label, h], ?_⟩
          simp only [ensureLabel, h]
          rfl
  | _ => exact .inl ⟨rfl, rfl⟩

theorem gained_self (t : TableSource) : t.gained t = [] := by
  unfold gained
  cases h : t.label <;> simp

theorem gained_ensureLabel (namer : NamerId) (t : TableSource) (n : Naming) :
    if t.unnamed then
      t.gained ((t.ensureLabel namer).run n).1 = [((Naming.draw namer).run n).1] ∧
        ((t.ensureLabel namer).run n).2 = ((Naming.draw namer).run n).2
    else t.gained ((t.ensureLabel namer).run n).1 = [] ∧ ((t.ensureLabel namer).run n).2 = n := by
  rcases t.ensureLabel_cases namer n with ⟨ht, h⟩ | ⟨q, rfl, hq, h⟩
  · simp [ht, h, gained_self]
  · simp [h, unnamed, isQuery, label, hq, gained, Query.label_labelled]

theorem kept_ensureLabel (namer : NamerId) (t : TableSource) (n : Naming) :
    Kept t ((t.ensureLabel namer).run n).1 := by
  rcases t.ensureLabel_cases namer n with ⟨ht, h⟩ | ⟨q, rfl, hq, h⟩
  · rw [h]
    exact .same ht
  · rw [h]
    exact .labelled hq _

end TableSource

def Effect.draws (ef : Effect) : Bool := ef.table?.any TableSource.unnamed

/-- A join in a statement is the join that was given, except for the label of its table. -/
def Join.Kept (given stored : Join) : Prop :=
  stored = { given with target := stored.target } ∧ TableSource.Kept given.target stored.target

/-! ## The workbench -/

/-- A draft with the tables that it was given, as they were given. -/
structure Entry where
  draft : Draft
  sources : List TableSource
  joins : List Join

namespace Entry

def after (e : Entry) (ef : Effect) (d : Draft) : Entry :=
  ⟨d, e.sources ++ ef.sources, e.joins ++ ef.joins⟩

/-- The labels that the tables of a draft have got. -/
def generated (e : Entry) : List String :=
  (List.zipWith TableSource.gained e.sources e.draft.tables.sources).flatten ++
    (List.zipWith (fun g s => g.target.gained s.target) e.joins e.draft.tables.joins).flatten

end Entry

/-- The labels that a draft gives to the table that it takes. -/
def Draft.gained (d : Draft) : Effect → List String
  | .source t => (d.tables.sources.getLast?).elim [] t.gained
  | .join j => (d.tables.joins.getLast?).elim [] fun s => j.target.gained s.target
  | _ => []

/-- Drafts and the namers that they share, with all names drawn so far. -/
structure Workbench where
  naming : Naming
  entries : List Entry
  drawn : List (NamerId × String)

/-- One step of a program that builds statements. -/
inductive Action where
  | generator (stem : String)
  /-- Begins a draft, with a namer of its own. -/
  | start (k : Draft.Kind)
  /-- Copies a draft; the copy shares its namer. -/
  | clone (i : Nat)
  | edit (i : Nat) (c : Draft.Edit)
  /-- Draws a name for anything else. -/
  | draw (namer : NamerId)

def Action.stems : Action → List String
  | .generator stem => [stem]
  | .start _ => ["sub"]
  | _ => []

namespace Workbench

def empty : Workbench := ⟨.empty, [], []⟩

def knows (w : Workbench) (namer : NamerId) : Bool := namer.index < w.naming.namers.length

/-- A namer is replaced by another one before there are tables. -/
def allows (w : Workbench) (e : Entry) : Effect → Bool
  | .nameFrom namer => e.draft.tables.all.isEmpty && w.knows namer
  | _ => true

def step (w : Workbench) : Action → Option Workbench
  | .generator stem =>
    some { w with naming := ((Naming.allocate (.sequential stem)).run w.naming).2 }
  | .start k =>
    let r := (Draft.new k).run w.naming
    some { w with naming := r.2, entries := w.entries ++ [⟨r.1, [], []⟩] }
  | .clone i => do
    let e ← w.entries[i]?
    some { w with entries := w.entries ++ [e] }
  | .edit i c => do
    let e ← w.entries[i]?
    let m ← e.draft.run c
    if w.allows e c.effect then
      let r := m.run w.naming
      some ⟨r.2, w.entries.set i (e.after c.effect r.1),
        w.drawn ++ (r.1.gained c.effect).map (e.draft.tables.namer, ·)⟩
    else none
  | .draw namer =>
    if w.knows namer then
      let r := (Naming.draw namer).run w.naming
      some { w with naming := r.2, drawn := w.drawn ++ [(namer, r.1)] }
    else none

def runFrom (w : Workbench) (actions : List Action) : Option Workbench := actions.foldlM step w

def run (actions : List Action) : Option Workbench := empty.runFrom actions

def names (w : Workbench) (namer : NamerId) : List String :=
  (w.drawn.filter (·.1 == namer)).map (·.2)

/-- The namer that a step draws a name from: that of a draft that takes a statement without a label
as a table. -/
def drawsFrom (w : Workbench) : Action → Option NamerId
  | .edit i c => do
    let e ← w.entries[i]?
    if c.effect.draws then some e.draft.tables.namer else none
  | .draw namer => some namer
  | _ => none

end Workbench

/-! ## One step -/

theorem Naming.run_draw {n : Naming} {namer : NamerId} {stem : String} {k : UInt64}
    (h : n.namers[namer.index]? = some (.counted stem k)) :
    (Naming.draw namer).run n =
      (stem ++ toString (k + 1).toNat, ⟨n.namers.set namer.index (.counted stem (k + 1))⟩) := by
  simp [Naming.draw, StateT.run, h, Namer.next]

theorem Naming.length_run_draw (namer : NamerId) (n : Naming) :
    ((Naming.draw namer).run n).2.namers.length = n.namers.length := by
  cases h : n.namers[namer.index]? with
  | none => simp [Naming.draw, StateT.run, h]
  | some m => simp [Naming.draw, StateT.run, h]

/-- What an edit draws from a namer is what the tables gain by it: one name for a statement without
a label, and nothing otherwise. -/
theorem Tables.run_apply {ts : Tables} {ef : Effect} {n : Naming} {d : Draft}
    (hd : d.tables = ((ts.apply ef).run n).1) :
    if ef.draws then
      d.gained ef = [((Naming.draw ts.namer).run n).1] ∧
        ((ts.apply ef).run n).2 = ((Naming.draw ts.namer).run n).2
    else d.gained ef = [] ∧ ((ts.apply ef).run n).2 = n := by
  cases ef with
  | source t =>
      have hgained : d.gained (.source t) = t.gained ((t.ensureLabel ts.namer).run n).1 := by
        simp only [Draft.gained, hd]
        exact congrArg (·.elim [] t.gained) List.getLast?_concat
      rw [hgained]
      exact t.gained_ensureLabel ts.namer n
  | join j =>
      have hgained :
          d.gained (.join j) = j.target.gained ((j.target.ensureLabel ts.namer).run n).1 := by
        simp only [Draft.gained, hd]
        exact congrArg (·.elim [] fun s : Join => j.target.gained s.target) List.getLast?_concat
      rw [hgained]
      exact j.target.gained_ensureLabel ts.namer n
  | nameFrom namer => exact ⟨rfl, rfl⟩
  | none => exact ⟨rfl, rfl⟩

namespace Workbench

variable {w w' : Workbench}

theorem step_edit {i : Nat} {c : Draft.Edit} (h : w.step (.edit i c) = some w') :
    ∃ e d, w.entries[i]? = some e ∧ w.allows e c.effect = true ∧
      d.tables = ((e.draft.tables.apply c.effect).run w.naming).1 ∧
      w' = ⟨((e.draft.tables.apply c.effect).run w.naming).2, w.entries.set i (e.after c.effect d),
        w.drawn ++ (d.gained c.effect).map (e.draft.tables.namer, ·)⟩ := by
  cases he : w.entries[i]? with
  | none => simp [step, he] at h
  | some e =>
      cases hm : e.draft.run c with
      | none => simp [step, he, hm] at h
      | some m =>
          have htables := Draft.tables_run hm
          cases ha : w.allows e c.effect with
          | false => simp [step, he, hm, ha] at h
          | true =>
              obtain rfl : _ = w' := by simpa [step, he, hm, ha] using h
              refine ⟨e, (m.run w.naming).1, rfl, ha, ?_, ?_⟩ <;> rw [← htables] <;> rfl

theorem step_clone {i : Nat} (h : w.step (.clone i) = some w') :
    ∃ e, w.entries[i]? = some e ∧ w' = { w with entries := w.entries ++ [e] } := by
  cases he : w.entries[i]? with
  | none => simp [step, he] at h
  | some e => exact ⟨e, rfl, by simpa [step, he] using h.symm⟩

theorem step_draw {namer : NamerId} (h : w.step (.draw namer) = some w') :
    w.knows namer = true ∧
      w' = { w with
        naming := ((Naming.draw namer).run w.naming).2
        drawn := w.drawn ++ [(namer, ((Naming.draw namer).run w.naming).1)] } := by
  cases hk : w.knows namer with
  | false => simp [step, hk] at h
  | true => exact ⟨rfl, by simpa [step, hk] using h.symm⟩

/-- A step draws one name from the namer of a statement that takes a statement without a label, and
nothing otherwise. -/
theorem drawn_step {a : Action} (h : w.step a = some w') :
    match w.drawsFrom a with
    | some namer => w'.drawn = w.drawn ++ [(namer, ((Naming.draw namer).run w.naming).1)] ∧
        w'.naming = ((Naming.draw namer).run w.naming).2 ∧ a.stems = []
    | none => w'.drawn = w.drawn ∧
        w'.naming.namers = w.naming.namers ++ a.stems.map .sequential := by
  cases a with
  | generator stem =>
      obtain rfl := Option.some.inj h
      exact ⟨rfl, rfl⟩
  | start k =>
      obtain rfl := Option.some.inj h
      exact ⟨rfl, congrArg Naming.namers (Draft.tables_new k w.naming).2⟩
  | clone i =>
      obtain ⟨e, -, rfl⟩ := step_clone h
      exact ⟨rfl, (List.append_nil _).symm⟩
  | edit i c =>
      obtain ⟨e, d, he, -, hd, rfl⟩ := step_edit h
      have hrun := Tables.run_apply hd
      cases hdraws : c.effect.draws <;> simp [drawsFrom, he, hdraws, Action.stems] at hrun ⊢
      · simp [hrun]
      · simp [hrun]
  | draw namer =>
      obtain ⟨-, rfl⟩ := step_draw h
      exact ⟨rfl, rfl, rfl⟩

theorem names_of_drawn {namer : NamerId} {name : String}
    (h : w'.drawn = w.drawn ++ [(namer, name)]) (id : NamerId) :
    w'.names id = w.names id ++ if id = namer then [name] else [] := by
  by_cases hid : id = namer
  · simp [names, h, hid]
  · simp [names, h, hid, Ne.symm hid]

theorem length_names_le (w : Workbench) (id : NamerId) : (w.names id).length ≤ w.drawn.length := by
  rw [names, List.length_map]
  exact List.length_filter_le _ _

/-- Namers and names are never lost. -/
structure Grows (w w' : Workbench) : Prop where
  namers : w.naming.namers.length ≤ w'.naming.namers.length
  drawn : w.drawn <+: w'.drawn

theorem Grows.knows (h : Grows w w') {namer : NamerId} (hk : w.knows namer = true) :
    w'.knows namer = true :=
  decide_eq_true (Nat.lt_of_lt_of_le (of_decide_eq_true hk) h.namers)

theorem Grows.names (h : Grows w w') {id : NamerId} {name : String} (hn : name ∈ w.names id) :
    name ∈ w'.names id :=
  ((h.drawn.filter _).map _).subset hn

theorem grows_step {a : Action} (h : w.step a = some w') : Grows w w' := by
  have hd := drawn_step h
  cases ha : w.drawsFrom a with
  | none =>
      rw [ha] at hd
      exact ⟨by simp [hd.2], hd.1 ▸ List.prefix_refl _⟩
  | some namer =>
      rw [ha] at hd
      exact ⟨by simp [hd.2.1, Naming.length_run_draw], by rw [hd.1]; exact List.prefix_append _ _⟩

theorem tables_step {a : Action} (h : w.step a = some w') {k : Nat} {e : Entry}
    (he : w.entries[k]? = some e) : ∃ e', w'.entries[k]? = some e' ∧
      e.draft.tables.sources <+: e'.draft.tables.sources ∧
      e.draft.tables.joins <+: e'.draft.tables.joins := by
  have hold (more : List Entry) : (w.entries ++ more)[k]? = some e := by
    rw [List.getElem?_append_left (List.getElem?_eq_some_iff.mp he).1, he]
  have hsame : e.draft.tables.sources <+: e.draft.tables.sources ∧
      e.draft.tables.joins <+: e.draft.tables.joins := ⟨List.prefix_refl _, List.prefix_refl _⟩
  cases a with
  | generator stem =>
      obtain rfl := Option.some.inj h
      exact ⟨e, he, hsame⟩
  | start kind =>
      obtain rfl := Option.some.inj h
      exact ⟨e, hold _, hsame⟩
  | clone i =>
      obtain ⟨e', -, rfl⟩ := step_clone h
      exact ⟨e, hold _, hsame⟩
  | edit i c =>
      obtain ⟨e', d, he', -, hd, rfl⟩ := step_edit h
      -- only the draft that is edited changes, and it only gains a table at the end
      by_cases hik : i = k
      · subst hik
        obtain rfl := Option.some.inj (he'.symm.trans he)
        refine ⟨_, List.getElem?_set_self (List.getElem?_eq_some_iff.mp he).1, ?_⟩
        simp only [Entry.after, hd]
        cases c.effect with
        | source t => exact ⟨List.prefix_append _ _, List.prefix_refl _⟩
        | join j => exact ⟨List.prefix_refl _, List.prefix_append _ _⟩
        | _ => exact hsame
      · exact ⟨e, (List.getElem?_set_ne hik).trans he, hsame⟩
  | draw id =>
      obtain ⟨-, rfl⟩ := step_draw h
      exact ⟨e, he, hsame⟩

/-- Nothing but a namer replaced too late keeps a draft from taking what it is given. -/
theorem exists_step {i : Nat} {e : Entry} {ef : Effect} (he : w.entries[i]? = some e)
    (ha : w.allows e ef = true) : ∃ c w', c.effect = ef ∧ w.step (.edit i c) = some w' := by
  obtain ⟨c, m, rfl, hm⟩ := e.draft.exists_edit ef
  have hsome : (w.step (.edit i c)).isSome = true := by simp [step, he, hm, ha]
  obtain ⟨w', h⟩ := Option.isSome_iff_exists.mp hsome
  exact ⟨c, w', rfl, h⟩

end Workbench

end SqlCompose
