import SqlCompose.Session.Client

/-!
# Stacked deadlines

A configured client gives every call its own time, and the caller may give it another. Each deadline
could ask the server to cancel, and the inner one stands before the line about rows and time. The
two together are as one deadline, the smaller.
-/

namespace SqlCompose

/-- The smaller of two times, where both are given. -/
def Duration.least : Option Duration → Option Duration → Option Duration
  | some a, some b => some ⟨min a.nanos b.nanos⟩
  | some a, none => some a
  | none, limit => limit

theorem Duration.le_of_lt_least {t : Duration} {a b : Option Duration}
    (h : ∀ d, least a b = some d → t.nanos < d.nanos) :
    (∀ d, a = some d → t.nanos ≤ d.nanos) ∧ (∀ d, b = some d → t.nanos ≤ d.nanos) := by
  cases a with
  | none => exact ⟨nofun, fun d hd => Nat.le_of_lt (h d hd)⟩
  | some a =>
      cases b with
      | none => exact ⟨fun d hd => Nat.le_of_lt (h d hd), nofun⟩
      | some b =>
          have hmin := h _ rfl
          rw [Nat.lt_min] at hmin
          refine ⟨fun d hd => ?_, fun d hd => ?_⟩
          · obtain rfl : a = d := Option.some.inj hd
            exact Nat.le_of_lt hmin.1
          · obtain rfl : b = d := Option.some.inj hd
            exact Nat.le_of_lt hmin.2

namespace Call

variable {α : Type}

/-! ## One deadline -/

/-- A call does not come to its end by an instant. -/
def EndsAfter (c : Call α) (limit : Duration) : Prop :=
  ∀ t r, c.finish = some (t, r) → limit.nanos < t.nanos

theorem endsAfter_or (c : Call α) (limit : Duration) :
    c.EndsAfter limit ∨ ∃ t r, c.finish = some (t, r) ∧ t.nanos ≤ limit.nanos := by
  cases hfinish : c.finish with
  | none => exact .inl fun t r h => nomatch hfinish.symm.trans h
  | some p =>
      by_cases hp : p.1.nanos ≤ limit.nanos
      · exact .inr ⟨p.1, p.2, rfl, hp⟩
      · refine .inl fun t r h => ?_
        obtain rfl : p = (t, r) := Option.some.inj (hfinish.symm.trans h)
        exact Nat.lt_of_not_le hp

theorem within_of_early {c : Call α} {t : Duration} {r : Except SqlError α}
    (h : c.finish = some (t, r)) (cancels : Bool) {limit : Option Duration}
    (ht : ∀ d, limit = some d → t.nanos ≤ d.nanos) : c.within cancels limit = c := by
  cases limit with
  | none => rfl
  | some d => simp [within, h, ht d rfl]

theorem within_of_endsAfter {c : Call α} {limit : Duration} (h : c.EndsAfter limit)
    (cancels : Bool) : c.within cancels (some limit) = c.expired cancels limit := by
  cases hfinish : c.finish with
  | none => simp [within, hfinish]
  | some p =>
      obtain ⟨t, r⟩ := p
      simp [within, hfinish, Nat.not_le.mpr (h t r hfinish)]

/-- A smaller deadline takes the place of a larger one, with its cancelling. -/
theorem expired_expired {a b : Duration} (h : b.nanos < a.nanos) (c : Call α) (cancels : Bool) :
    (c.expired cancels a).expired cancels b = c.expired cancels b := by
  have hevents : ((c.events.filter fun e => e.1.nanos ≤ a.nanos) ++
      if cancels then [(a, Event.cancelled)] else []).filter (fun e => e.1.nanos ≤ b.nanos) =
      c.events.filter fun e => e.1.nanos ≤ b.nanos := by
    have hlate : (if cancels then [(a, Event.cancelled)] else []).filter
        (fun e => e.1.nanos ≤ b.nanos) = [] := by
      cases cancels <;> simp [h]
    rw [List.filter_append, hlate, List.append_nil, List.filter_filter]
    refine List.filter_congr fun e _ => ?_
    by_cases he : e.1.nanos ≤ b.nanos <;> simp [he]
    omega
  rw [expired, expired, hevents]
  rfl

/-! ## Lines after success -/

variable (lines : Duration → α → List Event)

@[simp] theorem finish_onSuccess (c : Call α) : (c.onSuccess lines).finish = c.finish := by
  unfold onSuccess
  split <;> simp_all

theorem onSuccess_of_none {c : Call α} (h : c.finish = none) : c.onSuccess lines = c := by
  simp [onSuccess, h]

theorem onSuccess_nothing (c : Call α) : c.onSuccess (fun _ _ => []) = c := by
  unfold onSuccess
  split
  · rw [List.map_nil, List.append_nil]
  · rfl

theorem onSuccess_of_error {c : Call α} {t : Duration} {e : SqlError}
    (h : c.finish = some (t, .error e)) : c.onSuccess lines = c := by
  simp [onSuccess, h]

theorem onSuccess_expired (c : Call α) (cancels : Bool) (limit : Duration) :
    (c.expired cancels limit).onSuccess lines = c.expired cancels limit :=
  onSuccess_of_error lines rfl

/-- What a call does when it succeeds is lost when it is given up before. -/
theorem expired_onSuccess {c : Call α} {limit : Duration} (h : c.EndsAfter limit)
    (cancels : Bool) : (c.onSuccess lines).expired cancels limit = c.expired cancels limit := by
  have hevents : (c.onSuccess lines).events.filter (fun e => e.1.nanos ≤ limit.nanos) =
      c.events.filter fun e => e.1.nanos ≤ limit.nanos := by
    unfold onSuccess
    split
    · rename_i t a hfinish
      have ht := h t _ hfinish
      have hlines : ((lines t a).map fun e => (t, e)).filter (fun e => e.1.nanos ≤ limit.nanos) =
          [] := by simp [List.filter_eq_nil_iff, ht]
      rw [List.filter_append, hlines, List.append_nil]
    · rfl
  rw [expired, hevents]
  rfl

/-! ## Two deadlines -/

/-- What becomes of a call under a deadline, if something happens when it succeeds. A call that ends
before the deadline has its own result, and nothing is cancelled. A call that does not is given up
at the deadline: it is cancelled there once, and nothing happens later. -/
structure Bounded (own c : Call α) (limit : Option Duration) (cancels : Bool) : Prop where
  inTime : ∀ t r, own.finish = some (t, r) → (∀ d, limit = some d → t.nanos < d.nanos) →
    c.finish = some (t, r) ∧
    c.events = own.events ++ match r with
      | .ok a => (lines t a).map fun e => (t, e)
      | .error _ => []
  late : ∀ d, limit = some d → own.EndsAfter d →
    c.finish = some (d, .error (.timeout d)) ∧
    c.events = own.events.filter (fun e => e.1.nanos ≤ d.nanos) ++
      if cancels then [(d, .cancelled)] else []
  never : limit = none → own.finish = none → c.finish = none ∧ c.events = own.events

/-- A call that ends too late for the smaller deadline is given up there. -/
theorem within_within {own : Call α} {a b : Option Duration} {d : Duration}
    (hd : Duration.least a b = some d) (h : own.EndsAfter d) (cancels : Bool) :
    ((own.within cancels a).onSuccess lines).within cancels b = own.expired cancels d := by
  have hown : (own.onSuccess lines).EndsAfter d := by simpa [EndsAfter] using h
  have houter : (own.onSuccess lines).within cancels (some d) = own.expired cancels d :=
    (within_of_endsAfter hown cancels).trans (expired_onSuccess lines h cancels)
  cases a with
  | none =>
      obtain rfl : b = some d := hd
      exact houter
  | some a =>
      cases b with
      | none =>
          obtain rfl : a = d := Option.some.inj hd
          rw [within_of_endsAfter h, onSuccess_expired]
          rfl
      | some b =>
          have hmin : ⟨min a.nanos b.nanos⟩ = d := Option.some.inj hd
          by_cases hab : a.nanos ≤ b.nanos
          · -- the inner deadline passes first, and the outer one lets its error through
            obtain rfl : a = d := by rwa [Nat.min_eq_left hab] at hmin
            rw [within_of_endsAfter h, onSuccess_expired]
            exact within_of_early rfl cancels fun e he => Option.some.inj he ▸ hab
          · obtain rfl : b = d := by rwa [Nat.min_eq_right (Nat.le_of_not_le hab)] at hmin
            rcases own.endsAfter_or a with hinner | ⟨t, r, hfinish, hta⟩
            · -- the inner call is dropped before its own deadline
              have hlt : b.nanos < a.nanos := Nat.lt_of_not_le hab
              have hlate : (own.expired cancels a).EndsAfter b := by
                intro t r hfinish
                obtain ⟨rfl, -⟩ := Prod.mk.inj (Option.some.inj hfinish)
                exact hlt
              rw [within_of_endsAfter hinner, onSuccess_expired, within_of_endsAfter hlate,
                expired_expired hlt]
            · -- the call would end between the two deadlines
              rw [within_of_early hfinish cancels fun e he => Option.some.inj he ▸ hta]
              exact houter

theorem bounded (own : Call α) (cancels : Bool) (a b : Option Duration) :
    Bounded lines own (((own.within cancels a).onSuccess lines).within cancels b)
      (Duration.least a b) cancels where
  inTime t r hfinish ht := by
    obtain ⟨hta, htb⟩ := Duration.le_of_lt_least ht
    have houter : (own.onSuccess lines).finish = some (t, r) := by rw [finish_onSuccess, hfinish]
    rw [within_of_early hfinish cancels hta, within_of_early houter cancels htb]
    refine ⟨houter, ?_⟩
    cases r with
    | ok a => simp [onSuccess, hfinish]
    | error e => rw [onSuccess_of_error lines hfinish, List.append_nil]
  late d hd h := by
    rw [within_within lines hd h]
    exact ⟨rfl, rfl⟩
  never hlimit hfinish := by
    obtain ⟨rfl, rfl⟩ : a = none ∧ b = none := by
      cases a <;> cases b <;> simp_all [Duration.least]
    have hown : ((own.within cancels none).onSuccess lines).within cancels none = own :=
      onSuccess_of_none lines hfinish
    rw [hown]
    exact ⟨hfinish, rfl⟩

end Call

/-! ## Configured clients -/

namespace Client

/-- Executes a statement for its rows, perhaps within some time. -/
def queryUpTo (c : Client) (limit : Option Duration) (sql : String) (args : List Value) :
    Call (List Row) :=
  match limit with
  | some d => c.queryWithin d sql args
  | none => c.query sql args

/-- Executes a statement for the number of affected rows, perhaps within some time. -/
def executeUpTo (c : Client) (limit : Option Duration) (sql : String) (args : List Value) :
    Call Nat :=
  match limit with
  | some d => c.executeWithin d sql args
  | none => c.execute sql args

end Client

namespace Db

/-- What is logged when a call succeeds: one line in `stats` mode while statements are logged. -/
def statsLines {α : Type} (db : Db) (verb : String) (rows : α → Nat) (t : Duration) (a : α) :
    List Event :=
  if db.config.logsStats then db.logger.write 3 (db.statsLine verb (rows a) t) else []

theorem withStats_eq {α : Type} (db : Db) (verb : String) (rows : α → Nat) (c : Call α) :
    db.withStats verb rows c = c.onSuccess (db.statsLines verb rows) := by
  cases h : db.config.logsStats with
  | true =>
      have hlines : db.statsLines verb rows =
          fun t a => db.logger.write 3 (db.statsLine verb (rows a) t) := by
        funext t a
        simp [statsLines, h]
      rw [withStats, h, hlines, if_pos rfl]
  | false =>
      have hlines : db.statsLines verb rows = fun _ _ => [] := by
        funext t a
        simp [statsLines, h]
      rw [withStats, h, hlines, Call.onSuccess_nothing, if_neg Bool.false_ne_true]

/-- A recording logger is handed one line with the number of rows in `stats` mode while statements
are logged, and no line otherwise. -/
theorem statsLines_recording {α : Type} {db : Db} (h : db.logger = .recording) (verb : String)
    (rows : α → Nat) (t : Duration) (a : α) :
    db.statsLines verb rows t a =
      if db.config.logSql = true ∧ db.config.mode = .stats then
        [.logged 3 (db.statsLine verb (rows a) t)]
      else [] := by
  rw [statsLines, h]
  simp [Config.logsStats, Logger.write]

/-- A call that ends in time adds that line if it succeeds, and nothing if it fails. -/
theorem events_of_bounded {α : Type} {db : Db} (hlogger : db.logger = .recording) {verb : String}
    {rows : α → Nat} {own c : Call α} {limit : Option Duration} {cancels : Bool}
    (h : Call.Bounded (db.statsLines verb rows) own c limit cancels) {t : Duration}
    {r : Except SqlError α} (hfinish : own.finish = some (t, r))
    (ht : ∀ d, limit = some d → t.nanos < d.nanos) :
    c.events = own.events ++ match r with
      | .ok a =>
        if db.config.logSql = true ∧ db.config.mode = .stats then
          [(t, .logged 3 (db.statsLine verb (rows a) t))]
        else []
      | .error _ => [] := by
  obtain ⟨-, hevents⟩ := h.inTime t r hfinish ht
  rw [hevents]
  cases r with
  | error e => rfl
  | ok a =>
      simp only [statsLines_recording hlogger]
      split <;> rfl

theorem bounded_withStats {α : Type} (db : Db) (verb : String) (rows : α → Nat) (own : Call α)
    (limit : Option Duration) :
    Call.Bounded (db.statsLines verb rows) own
      ((db.withStats verb rows (db.limited own)).within db.client.cancels limit)
      (Duration.least db.config.queryTimeout limit) db.client.cancels := by
  rw [withStats_eq]
  exact Call.bounded _ _ _ _ _

theorem queryUpTo_configured (db : Db) (limit : Option Duration) (sql : String)
    (args : List Value) :
    (Client.configured db).queryUpTo limit sql args =
      (db.query sql args).within db.client.cancels limit := by
  cases limit <;> rfl

theorem executeUpTo_configured (db : Db) (limit : Option Duration) (sql : String)
    (args : List Value) :
    (Client.configured db).executeUpTo limit sql args =
      (db.execute sql args).within db.client.cancels limit := by
  cases limit <;> rfl

/-- A deadline of the configuration and one of the caller are as the smaller of the two. Before it
the client's own result comes through, followed by the line about rows and time if it is a success;
at it the call is given up, and the server is asked once to cancel, if it can be asked at all. -/
theorem stacked_deadlines (db : Db) (limit : Option Duration) (sql : String)
    (args : List Value) :
    Call.Bounded (db.statsLines "fetched" List.length) (db.client.query sql args)
      ((Client.configured db).queryUpTo limit sql args)
      (Duration.least db.config.queryTimeout limit) db.client.cancels ∧
    Call.Bounded (db.statsLines "affected" id) (db.client.execute sql args)
      ((Client.configured db).executeUpTo limit sql args)
      (Duration.least db.config.queryTimeout limit) db.client.cancels := by
  rw [queryUpTo_configured, executeUpTo_configured]
  exact ⟨db.bounded_withStats _ _ _ limit, db.bounded_withStats _ _ _ limit⟩

/-- A client that answers with empty rows after some time. -/
def answering (delay : Duration) (rows : Nat) : Client where
  query _ _ := .delayed [] delay (.ok (List.replicate rows ⟨[], []⟩))
  execute _ _ := .delayed [] delay (.ok rows)
  cancels := true
  logStatement _ := []

/-- A client that answers after two of nine milliseconds, with statistics for a recording logger. -/
def counted : Db :=
  ((ofClient (answering (.ofMillis 2) 2) Duration.text).withConfig
    ((Config.initial.withMode .stats).withQueryTimeout (.ofMillis 9))).withLogger .recording

theorem line_after_answer :
    ((Client.configured counted).queryUpTo (some (.ofMillis 5)) "SELECT 1" []).finish =
      some (.ofMillis 2, .ok [⟨[], []⟩, ⟨[], []⟩]) ∧
    ((Client.configured counted).queryUpTo (some (.ofMillis 5)) "SELECT 1" []).events =
      [(.ofMillis 2, .logged 3 "(fetched 2 rows in 2ms)")] ∧
    ((Client.configured counted).executeUpTo (some (.ofMillis 1)) "SELECT 1" []).events =
      [(.ofMillis 1, .cancelled)] := by
  obtain ⟨hquery, -⟩ := stacked_deadlines counted (some (.ofMillis 5)) "SELECT 1" []
  obtain ⟨-, hexecute⟩ := stacked_deadlines counted (some (.ofMillis 1)) "SELECT 1" []
  have hanswer : (counted.client.query "SELECT 1" []).finish =
      some (.ofMillis 2, .ok [⟨[], []⟩, ⟨[], []⟩]) := rfl
  have hearly : ∀ d, Duration.least counted.config.queryTimeout (some (.ofMillis 5)) = some d →
      (Duration.ofMillis 2).nanos < d.nanos := by
    intro d hd
    obtain rfl : _ = d := Option.some.inj hd
    decide
  have hlate : (counted.client.execute "SELECT 1" []).EndsAfter (.ofMillis 1) := by
    intro t r hfinish
    obtain ⟨rfl, -⟩ := Prod.mk.inj (Option.some.inj hfinish)
    decide
  obtain ⟨hfinish, -⟩ := hquery.inTime _ _ hanswer hearly
  refine ⟨hfinish, (events_of_bounded rfl hquery hanswer hearly).trans (by rfl), ?_⟩
  obtain ⟨-, hevents⟩ := hexecute.late (.ofMillis 1) rfl hlate
  exact hevents

/-- A client that never answers. -/
def stalled : Client := ⟨fun _ _ => .hanging [], fun _ _ => .hanging [], true, fun _ => []⟩

/-- Of two equal deadlines only one cancels. -/
example :
    let db := (ofClient stalled Duration.text).withQueryTimeout (.ofMillis 5)
    ((Client.configured db).queryWithin (.ofMillis 5) "SELECT 1" []).events =
      [(.ofMillis 5, .cancelled)] := by
  decide

end Db

end SqlCompose
