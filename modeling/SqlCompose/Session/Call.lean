import SqlCompose.Session.Log

/-!
# Calls in time

A call is seen by what happens and when, and by its result, if that ever comes. Time is counted from
the start of the call.
-/

namespace SqlCompose

/-- A call of a server: the events with their instants, and the instant and value of the result. -/
structure Call (α : Type) where
  events : List (Duration × Event)
  finish : Option (Duration × Except SqlError α)

namespace Call

/-- A call that has its result at once. -/
def immediate {α : Type} (events : List Event) (result : Except SqlError α) : Call α :=
  ⟨events.map fun e => (⟨0⟩, e), some (⟨0⟩, result)⟩

/-- A call whose result never comes. -/
def hanging {α : Type} (events : List Event) : Call α := ⟨events.map fun e => (⟨0⟩, e), none⟩

/-- A call whose result comes later. -/
def delayed {α : Type} (events : List Event) (delay : Duration) (result : Except SqlError α) :
    Call α :=
  ⟨events.map fun e => (⟨0⟩, e), some (delay, result)⟩

/-- Computes another result from the result. -/
def thenDo {α β : Type} (c : Call α) (f : α → Except SqlError β) : Call β :=
  ⟨c.events, c.finish.map fun (t, r) => (t, r.bind f)⟩

/-- Events before everything else. -/
def after {α : Type} (events : List Event) (c : Call α) : Call α :=
  ⟨(events.map fun e => (⟨0⟩, e)) ++ c.events, c.finish⟩

/-- Events when the call succeeds, given the elapsed time and the result. -/
def onSuccess {α : Type} (c : Call α) (f : Duration → α → List Event) : Call α :=
  match c.finish with
  | some (t, .ok a) => ⟨c.events ++ (f t a).map fun e => (t, e), c.finish⟩
  | _ => c

/-- A call that is given up at an instant; where requests can be cancelled, this one is. -/
def expired {α : Type} (c : Call α) (cancels : Bool) (limit : Duration) : Call α :=
  ⟨c.events.filter (fun e => e.1.nanos ≤ limit.nanos) ++
      if cancels then [(limit, .cancelled)] else [],
    some (limit, .error (.timeout limit))⟩

/-- Gives a call some time. A result at the last instant still counts; without one by then, the
server is asked to cancel if it can be, and nothing that would happen later does. -/
def within {α : Type} (c : Call α) (cancels : Bool) (limit : Option Duration) : Call α :=
  match limit with
  | none => c
  | some limit =>
    match c.finish with
    | some (t, _) => if t.nanos ≤ limit.nanos then c else c.expired cancels limit
    | none => c.expired cancels limit

end Call

end SqlCompose
