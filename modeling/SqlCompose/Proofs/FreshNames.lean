import SqlCompose.Proofs.Workbench

/-!
# Fresh names

The names that one namer gives are its stem followed by 1, 2, …, whoever asked for them, so no two
of them are equal. The invariant of a workbench says so, and that every label that a table has got
is one of these names. One step keeps it, and so does a run.
-/

namespace SqlCompose

theorem NamerId.ext {a b : NamerId} (h : a.index = b.index) : a = b := by
  cases a; cases b; exact congrArg _ h

/-! ## Numbered names -/

/-- The first names of a stem. -/
def numbered (stem : String) (n : Nat) : List String :=
  (List.range n).map fun k => stem ++ toString (k + 1)

theorem numbered_succ (stem : String) (n : Nat) :
    numbered stem (n + 1) = numbered stem n ++ [stem ++ toString (n + 1)] := by
  simp [numbered, List.range_succ]

theorem toString_injective {m n : Nat} (h : toString m = toString n) : m = n := by
  rw [Nat.toString_eq_repr, Nat.toString_eq_repr, Nat.repr_eq_ofList_toDigits,
    Nat.repr_eq_ofList_toDigits, String.ofList_inj] at h
  rw [← Nat.ofDigitChars_toDigits (b := 10) (n := m) (by decide) (by decide), h,
    Nat.ofDigitChars_toDigits (by decide) (by decide)]

/-- A stem is followed by a different number every time. -/
theorem nodup_numbered (stem : String) (n : Nat) : (numbered stem n).Nodup := by
  refine List.Pairwise.map _ (fun i j hij h => hij ?_) List.nodup_range
  exact Nat.succ.inj (toString_injective ((String.append_right_inj stem).mp h))

/-! ## What every step keeps -/

namespace Workbench

variable {w w' : Workbench}

/-- The namers count the names that were drawn from them, and these are numbered. -/
structure Counted (stems : List String) (w : Workbench) : Prop where
  length : w.naming.namers.length = stems.length
  count : ∀ (id : NamerId) (stem : String), stems[id.index]? = some stem →
    w.naming.namers[id.index]? = some (.counted stem (.ofNat (w.names id).length))
  numbered : ∀ (id : NamerId) (stem : String), stems[id.index]? = some stem →
    w.names id = numbered stem (w.names id).length
  unknown : ∀ id : NamerId, w.knows id = false → w.names id = []

variable {stems : List String}

theorem Counted.stem? (hc : w.Counted stems) {namer : NamerId} (hk : w.knows namer = true) :
    ∃ stem, stems[namer.index]? = some stem := by
  have hlt : namer.index < stems.length := by
    rw [← hc.length]
    exact of_decide_eq_true hk
  exact ⟨_, List.getElem?_eq_getElem hlt⟩

theorem knows_congr (h : w'.naming.namers.length = w.naming.namers.length) (id : NamerId) :
    w'.knows id = w.knows id := by
  rw [knows, knows, h]

theorem Counted.draw {namer : NamerId} (hc : w.Counted stems) (hk : w.knows namer = true)
    (few : w'.drawn.length < UInt64.size)
    (hdrawn : w'.drawn = w.drawn ++ [(namer, ((Naming.draw namer).run w.naming).1)])
    (hnaming : w'.naming = ((Naming.draw namer).run w.naming).2) : w'.Counted stems := by
  obtain ⟨stem, hstem⟩ := hc.stem? hk
  rw [Naming.run_draw (hc.count namer stem hstem)] at hdrawn hnaming
  have hnames := names_of_drawn hdrawn
  have hlength : w'.naming.namers.length = w.naming.namers.length := by simp [hnaming]
  -- the word of the count does not overflow: there are fewer names in all
  have hnumber : (UInt64.ofNat (w.names namer).length + 1).toNat = (w.names namer).length + 1 := by
    have hle := length_names_le w' namer
    rw [hnames namer, if_pos rfl, List.length_append, List.length_singleton] at hle
    rw [UInt64.toNat_add, UInt64.toNat_ofNat', UInt64.toNat_one, Nat.mod_add_mod]
    exact Nat.mod_eq_of_lt (Nat.lt_of_le_of_lt hle few)
  refine ⟨hlength.trans hc.length, fun id s hs => ?_, fun id s hs => ?_, fun id hid => ?_⟩
  · by_cases h : id = namer
    · subst h
      obtain rfl : s = stem := Option.some.inj (hs.symm.trans hstem)
      rw [hnames id, if_pos rfl, List.length_append, List.length_singleton, UInt64.ofNat_add,
        hnaming]
      exact List.getElem?_set_self (of_decide_eq_true hk)
    · have hne : namer.index ≠ id.index := fun he => h (NamerId.ext he.symm)
      rw [hnames id, if_neg h, List.append_nil, hnaming]
      exact (List.getElem?_set_ne hne).trans (hc.count id s hs)
  · by_cases h : id = namer
    · subst h
      obtain rfl : s = stem := Option.some.inj (hs.symm.trans hstem)
      rw [hnames id, if_pos rfl, List.length_append, List.length_singleton, numbered_succ, hnumber,
        ← hc.numbered id s hs]
    · rw [hnames id, if_neg h, List.append_nil]
      exact hc.numbered id s hs
  · rw [knows_congr hlength] at hid
    have hne : id ≠ namer := by
      rintro rfl
      rw [hk] at hid
      cases hid
    rw [hnames id, if_neg hne, hc.unknown id hid]
    rfl

theorem Counted.allocate {more : List String} (hc : w.Counted stems) (hdrawn : w'.drawn = w.drawn)
    (hnamers : w'.naming.namers = w.naming.namers ++ more.map .sequential) :
    w'.Counted (stems ++ more) := by
  have hnames (id : NamerId) : w'.names id = w.names id := by rw [names, hdrawn, names]
  have hnew (id : NamerId) (h : stems.length ≤ id.index) : w.names id = [] :=
    hc.unknown id (decide_eq_false (by rw [hc.length]; omega))
  refine ⟨by simp [hnamers, hc.length], fun id s hs => ?_, fun id s hs => ?_, fun id hid => ?_⟩
  · rw [hnames id, hnamers]
    by_cases h : id.index < stems.length
    · rw [List.getElem?_append_left h] at hs
      rw [List.getElem?_append_left (by rw [hc.length]; exact h)]
      exact hc.count id s hs
    · rw [Nat.not_lt] at h
      rw [List.getElem?_append_right h] at hs
      rw [List.getElem?_append_right (by rw [hc.length]; exact h), hc.length, List.getElem?_map, hs,
        hnew id h]
      rfl
  · rw [hnames id]
    by_cases h : id.index < stems.length
    · rw [List.getElem?_append_left h] at hs
      exact hc.numbered id s hs
    · rw [hnew id (Nat.not_lt.mp h)]
      rfl
  · rw [hnames id]
    refine hnew id (Nat.le_of_not_lt fun h => ?_)
    simp [knows, hnamers, hc.length] at hid
    omega

theorem Counted.nodup (hc : w.Counted stems) (id : NamerId) : (w.names id).Nodup := by
  cases hk : w.knows id with
  | false =>
      rw [hc.unknown id hk]
      exact List.nodup_nil
  | true =>
      obtain ⟨stem, hstem⟩ := hc.stem? hk
      rw [hc.numbered id stem hstem]
      exact nodup_numbered _ _

end Workbench

namespace Entry

/-- The tables of a draft are those that it was given, and the labels that they have got were drawn
from its namer, each once. -/
structure Sound (w : Workbench) (e : Entry) : Prop where
  namer : w.knows e.draft.tables.namer = true
  sources : List.Forall₂ TableSource.Kept e.sources e.draft.tables.sources
  joins : List.Forall₂ Join.Kept e.joins e.draft.tables.joins
  names : ∀ name ∈ e.generated, name ∈ w.names e.draft.tables.namer
  nodup : e.generated.Nodup

variable {w w' : Workbench} {e : Entry} {d : Draft} {ef : Effect} {n : Naming}

theorem Sound.grows (hs : e.Sound w) (h : w.Grows w') : e.Sound w' :=
  ⟨h.knows hs.namer, hs.sources, hs.joins, fun name hn => h.names (hs.names name hn), hs.nodup⟩

theorem kept_after (hs : e.Sound w) (hd : d.tables = ((e.draft.tables.apply ef).run n).1) :
    List.Forall₂ TableSource.Kept (e.after ef d).sources d.tables.sources ∧
      List.Forall₂ Join.Kept (e.after ef d).joins d.tables.joins := by
  rw [hd]
  cases ef with
  | source t =>
      simp only [after, Effect.sources, Effect.joins, List.append_nil]
      exact ⟨List.rel_append hs.sources (.cons (t.kept_ensureLabel _ n) .nil), hs.joins⟩
  | join j =>
      simp only [after, Effect.sources, Effect.joins, List.append_nil]
      exact ⟨hs.sources, List.rel_append hs.joins (.cons ⟨rfl, j.target.kept_ensureLabel _ n⟩ .nil)⟩
  | _ =>
      simp only [after, Effect.sources, Effect.joins, List.append_nil]
      exact ⟨hs.sources, hs.joins⟩

/-- By an edit, a draft gets the labels of the table that it takes. -/
theorem generated_after (hs : e.Sound w) (hd : d.tables = ((e.draft.tables.apply ef).run n).1) :
    (e.after ef d).generated.Perm (e.generated ++ d.gained ef) := by
  have hsources := hs.sources.length_eq
  have hjoins := hs.joins.length_eq
  cases ef with
  | source t =>
      have htaken : d.tables.sources =
          e.draft.tables.sources ++ [((t.ensureLabel e.draft.tables.namer).run n).1] := by
        rw [hd]
        rfl
      have hrest : d.tables.joins = e.draft.tables.joins := by
        rw [hd]
        rfl
      simp only [generated, after, Effect.sources, Effect.joins, Draft.gained, htaken, hrest,
        List.append_nil, List.zipWith_append hsources, List.getLast?_concat, Option.elim_some,
        List.flatten_append, List.append_assoc]
      refine .append_left _ ?_
      simpa using List.perm_append_comm
  | join j =>
      have htaken : d.tables.joins = e.draft.tables.joins ++
          [{ j with target := ((j.target.ensureLabel e.draft.tables.namer).run n).1 }] := by
        rw [hd]
        rfl
      have hrest : d.tables.sources = e.draft.tables.sources := by
        rw [hd]
        rfl
      simp only [generated, after, Effect.sources, Effect.joins, Draft.gained, htaken, hrest,
        List.append_nil, List.zipWith_append hjoins, List.getLast?_concat, Option.elim_some,
        List.flatten_append, List.append_assoc]
      simp
  | _ =>
      simp only [generated, after, Effect.sources, Effect.joins, Draft.gained, hd, List.append_nil]
      exact .refl _

theorem Sound.not_unnamed (hs : e.Sound w) : ∀ t ∈ e.draft.tables.all, t.unnamed = false := by
  have hkept {α : Type} {r : α → α → Prop} {p : α → Prop} (hp : ∀ a b, r a b → p b) {as bs : List α}
      (h : List.Forall₂ r as bs) : ∀ b ∈ bs, p b := by
    induction h with
    | nil => simp
    | cons hab _ ih => exact List.forall_mem_cons.mpr ⟨hp _ _ hab, ih⟩
  intro t ht
  rcases List.mem_append.mp ht with ht | ht
  · exact hkept (fun _ _ h => h.not_unnamed) hs.sources t ht
  · obtain ⟨j, hj, rfl⟩ := List.mem_map.mp ht
    exact hkept (p := fun j => j.target.unnamed = false) (fun _ _ h => h.2.not_unnamed) hs.joins j
      hj

theorem generated_of_no_tables (h : e.draft.tables.all = []) : e.generated = [] := by
  have ⟨hs, hj⟩ : e.draft.tables.sources = [] ∧ e.draft.tables.joins = [] := by
    simpa [Tables.all] using h
  simp [generated, hs, hj]

/-- An edit leaves a draft sound. -/
theorem Sound.edit (hs : e.Sound w) (hgrows : w.Grows w') (hallowed : w.allows e ef = true)
    (hd : d.tables = ((e.draft.tables.apply ef).run n).1)
    (hnames : w'.names e.draft.tables.namer = w.names e.draft.tables.namer ++ d.gained ef)
    (hnodup : (w'.names e.draft.tables.namer).Nodup) : (e.after ef d).Sound w' := by
  obtain ⟨hsources, hjoins⟩ := e.kept_after hs hd
  have hperm := e.generated_after hs hd
  rw [hnames, List.nodup_append] at hnodup
  have hgenerated : (e.generated ++ d.gained ef).Nodup :=
    List.nodup_append.mpr ⟨hs.nodup, hnodup.2.1,
      fun name hn other ho => hnodup.2.2 name (hs.names name hn) other ho⟩
  -- a namer is replaced before there are tables, so there is no label yet from the old one
  have hnamer : (∃ namer, ef = .nameFrom namer) ∨ d.tables.namer = e.draft.tables.namer := by
    rw [hd]
    cases ef with
    | nameFrom namer => exact .inl ⟨namer, rfl⟩
    | _ => exact .inr rfl
  rcases hnamer with ⟨namer, rfl⟩ | hnamer
  · have ⟨hempty, hknown⟩ : e.draft.tables.all.isEmpty = true ∧ w.knows namer = true := by
      simpa [Workbench.allows] using hallowed
    have hnone : (e.after (.nameFrom namer) d).generated = [] := by
      rw [generated_of_no_tables (List.isEmpty_iff.mp hempty)] at hperm
      exact hperm.eq_nil
    refine ⟨?_, hsources, hjoins, ?_, hperm.nodup_iff.mpr hgenerated⟩
    · simp only [after, hd]
      exact hgrows.knows hknown
    · simp [hnone]
  · refine ⟨?_, hsources, hjoins, fun name hn => ?_, hperm.nodup_iff.mpr hgenerated⟩
    · simp only [after, hnamer]
      exact hgrows.knows hs.namer
    · simp only [after, hnamer, hnames]
      rcases List.mem_append.mp (hperm.mem_iff.mp hn) with hn | hn
      · exact List.mem_append_left _ (hs.names name hn)
      · exact List.mem_append_right _ hn

end Entry

/-! ## Whole runs -/

namespace Workbench

variable {w w' : Workbench} {stems : List String}

structure Sound (stems : List String) (w : Workbench) : Prop where
  counted : w.Counted stems
  entries : ∀ e ∈ w.entries, e.Sound w

theorem Sound.knows_of_drawsFrom (hs : w.Sound stems) {a : Action} (h : w.step a = some w')
    {namer : NamerId} (ha : w.drawsFrom a = some namer) : w.knows namer = true := by
  cases a with
  | edit i c =>
      obtain ⟨e, d, he, -⟩ := step_edit h
      obtain ⟨-, rfl⟩ : c.effect.draws = true ∧ e.draft.tables.namer = namer := by
        simpa [drawsFrom, he] using ha
      exact (hs.entries e (List.mem_of_getElem? he)).namer
  | draw id =>
      obtain rfl := Option.some.inj ha
      exact (step_draw h).1
  | _ => cases ha

theorem Sound.counted_step (hs : w.Sound stems) {a : Action} (h : w.step a = some w')
    (few : w'.drawn.length < UInt64.size) : w'.Counted (stems ++ a.stems) := by
  have hd := drawn_step h
  cases ha : w.drawsFrom a with
  | none =>
      rw [ha] at hd
      exact hs.counted.allocate hd.1 hd.2
  | some namer =>
      rw [ha] at hd
      rw [hd.2.2, List.append_nil]
      exact hs.counted.draw (hs.knows_of_drawsFrom h ha) few hd.1 hd.2.1

/-- One step keeps a workbench sound. -/
theorem Sound.step (hs : w.Sound stems) {a : Action} (h : w.step a = some w')
    (few : w'.drawn.length < UInt64.size) : w'.Sound (stems ++ a.stems) := by
  have hcounted := hs.counted_step h few
  have hgrows := grows_step h
  refine ⟨hcounted, fun e he => ?_⟩
  have hold (e : Entry) (he : e ∈ w.entries) : e.Sound w' := (hs.entries e he).grows hgrows
  cases a with
  | generator stem =>
      obtain rfl := Option.some.inj h
      exact hold e he
  | start k =>
      obtain rfl := Option.some.inj h
      rcases List.mem_append.mp he with he | he
      · exact hold e he
      · obtain rfl := List.mem_singleton.mp he
        obtain ⟨htables, hnaming⟩ := Draft.tables_new k w.naming
        refine ⟨?_, ?_, ?_, ?_, ?_⟩
        · simp [knows, htables, hnaming]
        · simp [htables]
        · simp [htables]
        · simp [Entry.generated]
        · simp [Entry.generated]
  | clone i =>
      obtain ⟨e', hi, rfl⟩ := step_clone h
      rcases List.mem_append.mp he with he | he
      · exact hold e he
      · obtain rfl := List.mem_singleton.mp he
        exact hold e (List.mem_of_getElem? hi)
  | edit i c =>
      obtain ⟨e', d, he', hallowed, hd, rfl⟩ := step_edit h
      rcases List.mem_or_eq_of_mem_set he with he | rfl
      · exact hold e he
      · refine (hs.entries e' (List.mem_of_getElem? he')).edit hgrows hallowed hd ?_
          (hcounted.nodup _)
        simp [names, List.filter_map, Function.comp_def]
  | draw id =>
      obtain ⟨-, rfl⟩ := step_draw h
      exact hold e he

theorem runFrom_cons (a : Action) (actions : List Action) :
    w.runFrom (a :: actions) = (w.step a).bind (·.runFrom actions) := rfl

theorem length_drawn_le_of_run {actions : List Action} (h : w.runFrom actions = some w') :
    w.drawn.length ≤ w'.drawn.length := by
  induction actions generalizing w with
  | nil =>
      obtain rfl := Option.some.inj h
      exact Nat.le_refl _
  | cons a actions ih =>
      obtain ⟨w₁, h₁, h₂⟩ := Option.bind_eq_some_iff.mp (runFrom_cons a actions ▸ h)
      exact Nat.le_trans (grows_step h₁).drawn.length_le (ih h₂)

theorem Sound.run (hs : w.Sound stems) {actions : List Action} (h : w.runFrom actions = some w')
    (few : w'.drawn.length < UInt64.size) : w'.Sound (stems ++ actions.flatMap Action.stems) := by
  induction actions generalizing w stems with
  | nil =>
      obtain rfl := Option.some.inj h
      simpa using hs
  | cons a actions ih =>
      obtain ⟨w₁, h₁, h₂⟩ := Option.bind_eq_some_iff.mp (runFrom_cons a actions ▸ h)
      have few₁ := Nat.lt_of_le_of_lt (length_drawn_le_of_run h₂) few
      simpa using ih (hs.step h₁ few₁) h₂

theorem sound_empty : empty.Sound [] := by
  refine ⟨⟨rfl, ?_, ?_, fun _ _ => rfl⟩, ?_⟩ <;> simp [empty]

/-- The names that tables get never clash. In whatever state a program has brought the drafts and
the namers that they share, the names drawn from a namer are its stem followed by 1, 2, … and so are
different; the tables of a draft are those that it was given, except that those statements that had
no label have got one of these names each. A step draws one name if it adds such a statement, and
none otherwise, and changes no table that a draft has. -/
theorem fresh_names (actions : List Action) (w : Workbench) (hrun : run actions = some w)
    (few : w.drawn.length < UInt64.size) :
    (∀ (namer : NamerId) (stem : String),
      (actions.flatMap Action.stems)[namer.index]? = some stem →
        w.names namer = numbered stem (w.names namer).length) ∧
    (∀ namer, (w.names namer).Nodup) ∧
    (∀ e ∈ w.entries,
      List.Forall₂ TableSource.Kept e.sources e.draft.tables.sources ∧
      List.Forall₂ Join.Kept e.joins e.draft.tables.joins ∧
      (∀ t ∈ e.draft.tables.all, t.unnamed = false) ∧
      e.generated ⊆ w.names e.draft.tables.namer ∧ e.generated.Nodup) ∧
    (∀ a w', w.step a = some w' →
      (∀ namer, w.drawsFrom a = some namer →
        w'.drawn = w.drawn ++ [(namer, ((Naming.draw namer).run w.naming).1)] ∧
        w'.naming = ((Naming.draw namer).run w.naming).2) ∧
      (w.drawsFrom a = none →
        w'.drawn = w.drawn ∧ w.naming.namers <+: w'.naming.namers) ∧
      ∀ (k : Nat) (e : Entry), w.entries[k]? = some e → ∃ e', w'.entries[k]? = some e' ∧
        e.draft.tables.sources <+: e'.draft.tables.sources ∧
        e.draft.tables.joins <+: e'.draft.tables.joins) ∧
    ∀ (i : Nat) (e : Entry) (ef : Effect), w.entries[i]? = some e → w.allows e ef = true →
      ∃ c w', c.effect = ef ∧ w.step (.edit i c) = some w' := by
  have hs : w.Sound (actions.flatMap Action.stems) := by
    simpa using sound_empty.run hrun few
  refine ⟨hs.counted.numbered, hs.counted.nodup, fun e he => ?_, fun a w' h => ⟨?_, ?_, ?_⟩,
    fun i e ef he ha => exists_step he ha⟩
  · have hentry := hs.entries e he
    exact ⟨hentry.sources, hentry.joins, hentry.not_unnamed, hentry.names, hentry.nodup⟩
  · intro namer ha
    have hd := drawn_step h
    rw [ha] at hd
    exact ⟨hd.1, hd.2.1⟩
  · intro ha
    have hd := drawn_step h
    rw [ha] at hd
    exact ⟨hd.1, hd.2 ▸ List.prefix_append _ _⟩
  · exact fun k e he => tables_step h he

/-- Two copies of a statement and an update that shares their namer draw from one sequence. -/
theorem fresh_names_of_copies :
    ∃ (q : Query) (w : Workbench), run [
        .start .select, .edit 0 (.select (.addSource (.query q))), .clone 0,
        .edit 1 (.select (.addJoin (.ofKind .cross (.query q)))),
        .start (.update (.ofName "users")), .edit 2 (.update (.nameFrom ⟨0⟩)),
        .edit 2 (.update (.addSource (.query q))),
        .edit 0 (.select (.addSource (.query (q.labelled "sub2"))))] = some w ∧
      w.drawn.length < UInt64.size ∧ w.names ⟨0⟩ = ["sub1", "sub2", "sub3"] ∧
      ∀ e ∈ w.entries, e.generated.Nodup := by
  obtain ⟨q, hq⟩ : ∃ q : Query, q = .delete ((Delete.new (.ofName "users")).run .empty).1 :=
    ⟨_, rfl⟩
  obtain ⟨w, hrun, hdrawn⟩ : ∃ w, run [
      .start .select, .edit 0 (.select (.addSource (.query q))), .clone 0,
      .edit 1 (.select (.addJoin (.ofKind .cross (.query q)))),
      .start (.update (.ofName "users")), .edit 2 (.update (.nameFrom ⟨0⟩)),
      .edit 2 (.update (.addSource (.query q))),
      .edit 0 (.select (.addSource (.query (q.labelled "sub2"))))] = some w ∧
      (w.names ⟨0⟩).length = 3 ∧ w.drawn.length = 3 := by
    subst hq
    exact ⟨_, rfl, rfl, rfl⟩
  have few : w.drawn.length < UInt64.size := by
    rw [hdrawn.2]
    decide
  have h := fresh_names _ w hrun few
  refine ⟨q, w, hrun, few, ?_, fun e he => (h.2.2.1 e he).2.2.2.2⟩
  rw [h.1 ⟨0⟩ "sub" rfl, hdrawn.1]
  decide

end Workbench

end SqlCompose
