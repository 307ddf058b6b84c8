import SqlCompose.Session.Execution

/-!
# Fetching rows

The ways to fetch the rows of a statement differ in how many rows they want and in which they read.
They send the same statement, so they fail alike where the client fails. Where it has rows, what
counts first is how many, and only then whether they can be read.
-/

namespace SqlCompose

/-! ## Results -/

section

variable {α ε ε' : Type} {x : Except ε α} {f : ε → ε'}

theorem mapError_eq_ok_iff {a : α} : x.mapError f = .ok a ↔ x = .ok a := by
  cases x with
  | error reason => exact ⟨nofun, nofun⟩
  | ok b =>
      constructor
      · intro h
        rw [← Except.ok.inj h]
      · intro h
        rw [← Except.ok.inj h]
        rfl

theorem mapError_eq_error_iff {e : ε'} :
    x.mapError f = .error e ↔ ∃ reason, x = .error reason ∧ e = f reason := by
  cases x with
  | error reason =>
      constructor
      · intro h
        exact ⟨reason, rfl, (Except.error.inj h).symm⟩
      · rintro ⟨reason', hreason, rfl⟩
        rw [← Except.error.inj hreason]
        rfl
  | ok a => exact ⟨nofun, nofun⟩

end

/-! ## Reading rows -/

namespace RowDecoder

variable {α : Type} (d : RowDecoder α)

theorem decodeAll_cons_ok {r : Row} {a : α} (h : d.decode r = .ok a) (rows : List Row) :
    d.decodeAll (r :: rows) = (d.decodeAll rows).map (a :: ·) := by
  rw [decodeAll, h]
  rfl

theorem decodeAll_cons_error {r : Row} {e : SqlError} (h : d.decode r = .error e)
    (rows : List Row) : d.decodeAll (r :: rows) = .error e := by
  rw [decodeAll, h]
  rfl

/-- All rows are read if each of them is, in their order. -/
theorem decodeAll_eq_ok_iff (rows : List Row) (vs : List α) :
    d.decodeAll rows = .ok vs ↔ rows.map d.decode = vs.map .ok := by
  induction rows generalizing vs with
  | nil => cases vs <;> simp [decodeAll]
  | cons r rows ih =>
      cases hr : d.decode r with
      | error e => cases vs <;> simp [decodeAll_cons_error d hr, hr]
      | ok a =>
          rw [decodeAll_cons_ok d hr]
          cases vs with
          | nil => cases d.decodeAll rows <;> simp [Except.map]
          | cons v vs =>
              have hrest := ih vs
              cases hrows : d.decodeAll rows <;> simp_all [Except.map]

/-- The first row that cannot be read decides. -/
theorem decodeAll_eq_error_iff (rows : List Row) (e : SqlError) :
    d.decodeAll rows = .error e ↔ ∃ before r after, rows = before ++ r :: after ∧
      (∀ x ∈ before, ∃ v, d.decode x = .ok v) ∧ d.decode r = .error e := by
  constructor
  · intro h
    induction rows with
    | nil => cases h
    | cons r rows ih =>
        cases hr : d.decode r with
        | error e' =>
            obtain rfl : e' = e := by simpa [decodeAll_cons_error d hr] using h
            exact ⟨[], r, rows, rfl, by simp, hr⟩
        | ok a =>
            rw [decodeAll_cons_ok d hr] at h
            have hrows : d.decodeAll rows = .error e := by
              cases hrows : d.decodeAll rows <;> simp_all [Except.map]
            obtain ⟨before, x, after, hsplit, hbefore, hx⟩ := ih hrows
            refine ⟨r :: before, x, after, by simp [hsplit], ?_, hx⟩
            exact List.forall_mem_cons.mpr ⟨⟨a, hr⟩, hbefore⟩
  · rintro ⟨before, r, after, rfl, hbefore, hr⟩
    induction before with
    | nil => exact decodeAll_cons_error d hr after
    | cons x before ih =>
        obtain ⟨⟨v, hx⟩, hrest⟩ := List.forall_mem_cons.mp hbefore
        rw [List.cons_append, decodeAll_cons_ok d hx, ih hrest]
        rfl

end RowDecoder

/-! ## Results for the same rows -/

namespace Query

variable {α : Type}

/-- What the ways to fetch have as results for the same rows. -/
structure Fetched (q : Query) (d : RowDecoder α) (rows : List Row)
    (all : Except SqlError (List α)) (opt : Except SqlError (Option α))
    (one strict : Except SqlError α) : Prop where
  all_ok : ∀ vs : List α, all = .ok vs ↔ rows.map d.decode = vs.map .ok
  all_error : ∀ e, all = .error e ↔ ∃ before r after reason, rows = before ++ r :: after ∧
    (∀ x ∈ before, ∃ v, d.decode x = .ok v) ∧ d.decode r = .error reason ∧
      e = reason.whileMapping q d.target
  opt_ok : ∀ v, opt = .ok (some v) ↔ ∃ r, rows.head? = some r ∧ d.decode r = .ok v
  opt_none : opt = .ok none ↔ rows = []
  opt_error : ∀ e, opt = .error e ↔ ∃ r reason, rows.head? = some r ∧
    d.decode r = .error reason ∧ e = reason.whileMapping q d.target
  one_ok : ∀ v, one = .ok v ↔ ∃ r, rows.head? = some r ∧ d.decode r = .ok v
  one_error : ∀ e, one = .error e ↔
    (rows = [] ∧ e = .notFound "Expected one row, got none") ∨
    ∃ r reason, rows.head? = some r ∧ d.decode r = .error reason ∧
      e = reason.whileMapping q d.target
  strict_ok : ∀ v, strict = .ok v ↔ ∃ r, rows = [r] ∧ d.decode r = .ok v
  strict_error : ∀ e, strict = .error e ↔
    (rows = [] ∧ e = .notFound "Expected 1 row, got 0") ∨
    (2 ≤ rows.length ∧ e = .tooManyRows 1 rows.length) ∨
    ∃ r reason, rows = [r] ∧ d.decode r = .error reason ∧ e = reason.whileMapping q d.target
  strict_single : rows.length = 1 → strict = one
  strict_agrees : ∀ v, strict = .ok v → one = .ok v ∧ opt = .ok (some v) ∧ all = .ok [v]

theorem decodeRows_eq_ok_iff (q : Query) (d : RowDecoder α) (rows : List Row) (vs : List α) :
    q.decodeRows d rows = .ok vs ↔ rows.map d.decode = vs.map .ok :=
  mapError_eq_ok_iff.trans (d.decodeAll_eq_ok_iff rows vs)

theorem decodeRows_eq_error_iff (q : Query) (d : RowDecoder α) (rows : List Row) (e : SqlError) :
    q.decodeRows d rows = .error e ↔ ∃ before r after reason, rows = before ++ r :: after ∧
      (∀ x ∈ before, ∃ v, d.decode x = .ok v) ∧ d.decode r = .error reason ∧
        e = reason.whileMapping q d.target := by
  rw [decodeRows, mapError_eq_error_iff]
  constructor
  · rintro ⟨reason, hreason, he⟩
    obtain ⟨before, r, after, hsplit, hbefore, hr⟩ :=
      (d.decodeAll_eq_error_iff rows reason).mp hreason
    exact ⟨before, r, after, reason, hsplit, hbefore, hr, he⟩
  · rintro ⟨before, r, after, reason, hsplit, hbefore, hr, he⟩
    have hreason := (d.decodeAll_eq_error_iff rows reason).mpr
      ⟨before, r, after, hsplit, hbefore, hr⟩
    exact ⟨reason, hreason, he⟩

theorem decodeRow_eq_ok_iff (q : Query) (d : RowDecoder α) (r : Row) (v : α) :
    q.decodeRow d r = .ok v ↔ d.decode r = .ok v := mapError_eq_ok_iff

theorem decodeRow_eq_error_iff (q : Query) (d : RowDecoder α) (r : Row) (e : SqlError) :
    q.decodeRow d r = .error e ↔
      ∃ reason, d.decode r = .error reason ∧ e = reason.whileMapping q d.target :=
  mapError_eq_error_iff

theorem decodeOpt_eq_ok_iff (q : Query) (d : RowDecoder α) (r : Row) (v : α) :
    q.decodeOpt d (some r) = .ok (some v) ↔ d.decode r = .ok v := by
  rw [← q.decodeRow_eq_ok_iff, decodeOpt]
  cases q.decodeRow d r <;> simp [Except.map]

theorem decodeOpt_ne_none (q : Query) (d : RowDecoder α) (r : Row) :
    q.decodeOpt d (some r) ≠ .ok none := by
  rw [decodeOpt]
  cases q.decodeRow d r <;> simp [Except.map]

theorem decodeOpt_eq_error_iff (q : Query) (d : RowDecoder α) (r : Row) (e : SqlError) :
    q.decodeOpt d (some r) = .error e ↔
      ∃ reason, d.decode r = .error reason ∧ e = reason.whileMapping q d.target := by
  rw [← q.decodeRow_eq_error_iff, decodeOpt]
  cases q.decodeRow d r <;> simp [Except.map]

theorem fetched (q : Query) (d : RowDecoder α) (rows : List Row) :
    q.Fetched d rows (q.decodeRows d rows) (q.decodeOpt d rows.head?)
      ((firstRow rows).bind (q.decodeRow d)) ((onlyRow rows).bind (q.decodeRow d)) where
  all_ok := q.decodeRows_eq_ok_iff d rows
  all_error := q.decodeRows_eq_error_iff d rows
  opt_ok v := by
    cases rows with
    | nil => simp [decodeOpt]
    | cons r rest => simp [q.decodeOpt_eq_ok_iff d r v]
  opt_none := by
    cases rows with
    | nil => simp [decodeOpt]
    | cons r rest => simp [q.decodeOpt_ne_none d r]
  opt_error e := by
    cases rows with
    | nil => simp [decodeOpt]
    | cons r rest => simp [q.decodeOpt_eq_error_iff d r e]
  one_ok v := by
    cases rows with
    | nil => simp [firstRow, Except.bind]
    | cons r rest => simp [firstRow, Except.bind, q.decodeRow_eq_ok_iff d r v]
  one_error e := by
    cases rows with
    | nil => simp [firstRow, Except.bind, eq_comm]
    | cons r rest => simp [firstRow, Except.bind, q.decodeRow_eq_error_iff d r e]
  strict_ok v := by
    match rows with
    | [] => simp [onlyRow, Except.bind]
    | [r] => simp [onlyRow, Except.bind, q.decodeRow_eq_ok_iff d r v]
    | r :: s :: rest => simp [onlyRow, Except.bind]
  strict_error e := by
    match rows with
    | [] => simp [onlyRow, Except.bind, eq_comm]
    | [r] => simp [onlyRow, Except.bind, q.decodeRow_eq_error_iff d r e]
    | r :: s :: rest => simp [onlyRow, Except.bind, eq_comm]
  strict_single h := by
    match rows, h with
    | [r], _ => rfl
  strict_agrees v h := by
    match rows, h with
    | [r], h =>
      have hr : d.decode r = .ok v := (q.decodeRow_eq_ok_iff d r v).mp h
      refine ⟨h, (q.decodeOpt_eq_ok_iff d r v).mpr hr, ?_⟩
      rw [decodeRows_eq_ok_iff]
      simpa using hr

end Query

/-! ## Calls -/

namespace Call

variable {α β γ : Type}

theorem thenDo_thenDo (c : Call α) (f : α → Except SqlError β) (g : β → Except SqlError γ) :
    (c.thenDo f).thenDo g = c.thenDo fun a => (f a).bind g := by
  have hfinish : ((c.thenDo f).thenDo g).finish = (c.thenDo fun a => (f a).bind g).finish := by
    simp only [thenDo, Option.map_map]
    refine congrArg (Option.map · c.finish) (funext fun (t, r) => ?_)
    cases r <;> rfl
  exact congrArg (Call.mk c.events) hfinish

theorem finish_thenDo_of_error {c : Call α} {t : Duration} {e : SqlError}
    (h : c.finish = some (t, .error e)) (f : α → Except SqlError β) :
    (c.thenDo f).finish = some (t, .error e) := by
  rw [thenDo, h]
  rfl

theorem finish_thenDo_of_ok {c : Call α} {t : Duration} {a : α}
    (h : c.finish = some (t, .ok a)) (f : α → Except SqlError β) :
    (c.thenDo f).finish = some (t, f a) := by
  rw [thenDo, h]
  rfl

theorem finish_thenDo_of_none {c : Call α} (h : c.finish = none) (f : α → Except SqlError β) :
    (c.thenDo f).finish = none := by
  rw [thenDo, h]
  rfl

end Call

namespace Query

variable {α : Type}

/-- A way to fetch reads the rows of the plain query in its own manner. -/
theorem fetchAll_eq (q : Query) (c : Client) (d : RowDecoder α) :
    q.fetchAll c d = (q.query c).thenDo (q.decodeRows d) := rfl

theorem fetchOpt_eq (q : Query) (c : Client) (d : RowDecoder α) :
    q.fetchOpt c d = (q.query c).thenDo fun rows => q.decodeOpt d rows.head? :=
  (q.query c).thenDo_thenDo (fun rows => .ok rows.head?) (q.decodeOpt d)

theorem fetchOne_eq (q : Query) (c : Client) (d : RowDecoder α) :
    q.fetchOne c d = (q.query c).thenDo fun rows => (firstRow rows).bind (q.decodeRow d) :=
  (q.query c).thenDo_thenDo firstRow (q.decodeRow d)

theorem fetchOneStrict_eq (q : Query) (c : Client) (d : RowDecoder α) :
    q.fetchOneStrict c d = (q.query c).thenDo fun rows => (onlyRow rows).bind (q.decodeRow d) :=
  (q.query c).thenDo_thenDo onlyRow (q.decodeRow d)

/-- The ways to fetch agree: they cause the same events, they fail as the client fails and when it
does, and for the same rows their results are as `Fetched` says. An error of reading a row is
reported as it is, unless a column could not be read: then it is reported with the columns of the
statement. -/
theorem fetches_agree (q : Query) (c : Client) (d : RowDecoder α) :
    ((q.fetchAll c d).events = (q.query c).events ∧
      (q.fetchOpt c d).events = (q.query c).events ∧
      (q.fetchOne c d).events = (q.query c).events ∧
      (q.fetchOneStrict c d).events = (q.query c).events) ∧
    ((c.query q.build.sql q.build.args).finish = none →
      (q.fetchAll c d).finish = none ∧ (q.fetchOpt c d).finish = none ∧
      (q.fetchOne c d).finish = none ∧ (q.fetchOneStrict c d).finish = none) ∧
    (∀ t e, (c.query q.build.sql q.build.args).finish = some (t, .error e) →
      (q.fetchAll c d).finish = some (t, .error e) ∧
      (q.fetchOpt c d).finish = some (t, .error e) ∧
      (q.fetchOne c d).finish = some (t, .error e) ∧
      (q.fetchOneStrict c d).finish = some (t, .error e)) ∧
    (∀ t rows, (c.query q.build.sql q.build.args).finish = some (t, .ok rows) →
      ∃ all opt one strict, q.Fetched d rows all opt one strict ∧
        (q.fetchAll c d).finish = some (t, all) ∧ (q.fetchOpt c d).finish = some (t, opt) ∧
        (q.fetchOne c d).finish = some (t, one) ∧
        (q.fetchOneStrict c d).finish = some (t, strict)) ∧
    (∀ e : SqlError,
      (∃ column reason, e = .decode column reason ∧ e.whileMapping q d.target =
        .rowMapping d.target ("column '" ++ column ++ "': " ++ reason) q.columns) ∨
      (∀ column reason, e ≠ .decode column reason) ∧ e.whileMapping q d.target = e) := by
  rw [fetchAll_eq, fetchOpt_eq, fetchOne_eq, fetchOneStrict_eq]
  refine ⟨⟨rfl, rfl, rfl, rfl⟩, fun h => ?_, fun t e h => ?_, fun t rows h => ?_, fun e => ?_⟩
  · have hfinish {β : Type} (f : List Row → Except SqlError β) :
        ((q.query c).thenDo f).finish = none := Call.finish_thenDo_of_none h f
    exact ⟨hfinish _, hfinish _, hfinish _, hfinish _⟩
  · have hfinish {β : Type} (f : List Row → Except SqlError β) :
        ((q.query c).thenDo f).finish = some (t, .error e) := Call.finish_thenDo_of_error h f
    exact ⟨hfinish _, hfinish _, hfinish _, hfinish _⟩
  · have hfinish {β : Type} (f : List Row → Except SqlError β) :
        ((q.query c).thenDo f).finish = some (t, f rows) := Call.finish_thenDo_of_ok h f
    exact ⟨_, _, _, _, q.fetched d rows, hfinish _, hfinish _, hfinish _, hfinish _⟩
  · cases e with
    | decode column reason => exact .inl ⟨column, reason, rfl, rfl⟩
    | query | notFound | tooManyRows | uniqueViolation | foreignKeyViolation | checkViolation
    | rowMapping | timeout | other => exact .inr ⟨fun _ _ => nofun, rfl⟩

end Query

end SqlCompose
