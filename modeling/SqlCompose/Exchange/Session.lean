import SqlCompose.Exchange.Value
import SqlCompose.Session.Call
import SqlCompose.Session.Row

/-!
# Reports on executions

Results, errors and events as JSON data.
-/

namespace SqlCompose

/-- The name of an error's cause. -/
def SqlError.name : SqlError → String
  | .query _ => "Query"
  | .notFound _ => "NotFound"
  | .tooManyRows _ _ => "TooManyRows"
  | .uniqueViolation _ => "UniqueViolation"
  | .foreignKeyViolation _ => "ForeignKeyViolation"
  | .checkViolation _ => "CheckViolation"
  | .decode _ _ => "Decode"
  | .rowMapping _ _ _ => "RowMapping"
  | .timeout _ => "Timeout"
  | .other _ => "Other"

/-- An error: its cause, its wording, and what callers ask of it. -/
def SqlError.report (e : SqlError) : Json :=
  .object [("error", .string e.name), ("message", .string e.message),
    ("not_found", .bool e.isNotFound), ("unique", .bool e.isUniqueViolation),
    ("timeout", .bool e.isTimeout)]

/-- The error of a cause that is described as data. -/
def SqlError.ofJson? (j : Json) : Option SqlError := do
  let text (key : String) : Option String := (j.get key).text?
  let nat (key : String) : Option Nat := (j.get key).nat?
  match ← text "kind" with
  | "NotFound" => return .notFound (← text "message")
  | "UniqueViolation" => return .uniqueViolation (← text "message")
  | "ForeignKeyViolation" => return .foreignKeyViolation (← text "message")
  | "CheckViolation" => return .checkViolation (← text "message")
  | "Other" => return .other (← text "message")
  | "TooManyRows" => return .tooManyRows (← nat "expected") (← nat "got")
  | "Decode" => return .decode (← text "column") (← text "message")
  | "Timeout" => return .timeout ⟨← nat "nanos"⟩
  | _ => none

/-- An element of an array: integers of 64 bits stand for themselves. -/
def Cell.elementReport : Cell → Json
  | .value (.bigInt n) => .ofInt n.toInt
  | .value v => v.toJson
  | .list _ => .null

/-- A value read from a column. -/
def Cell.report : Cell → Json
  | .value v => v.toJson
  | .list cells => .array (cells.map Cell.elementReport)

/-- A row: the names and types of its columns. -/
def Row.report (r : Row) : Json :=
  .object [("row", .array (r.columns.map fun c =>
    .array [.string c.name, .string c.type.typeName]))]

/-- Bytes, or null. -/
def Exchange.bytesReport (bytes : Option (List UInt8)) : Json :=
  .ofOption (fun bs => .string (Text.hex bs)) bytes

/-- A piece of data in an event. -/
def EventField.report : EventField → Json
  | .number n => .ofNat n
  | .text s => .string s

/-- What an event shows; the request to give up a statement is not shown. -/
def Event.report? : Event → Option Json
  | .emitted level fields => some <| .object [
    ("ev", .string "event"), ("level", .string level.name),
    ("fields", .object (fields.map fun (name, f) => (name, f.report)))]
  | .logged depth line => some <| .object [
    ("ev", .string "log"), ("depth", .ofNat depth), ("line", .string line)]
  | .parsed sql => some <| .object [("ev", .string "parse"), ("sql", .string sql)]
  | .bound params => some <| .object [
    ("ev", .string "bind"), ("params", .array (params.map Exchange.bytesReport))]
  | .cancelled => none

/-- A call that has ended: its result and what happened. -/
def Call.report? {α : Type} (report : α → Json) (c : Call α) : Option Json :=
  c.finish.map fun (_, result) => .object [
    ("result", match result with
      | .ok a => .object [("ok", report a)]
      | .error e => e.report),
    ("trace", .array (c.events.filterMap fun e => e.2.report?))]

end SqlCompose
