import SqlCompose.Json.Access
import SqlCompose.Json.Reader
import SqlCompose.Value.Literal

/-!
# Values as JSON data

The JSON form of a value names its type and gives its content, so that values of different types
stay apart. Floating-point numbers are given by their bits and bytes by their digits; what a
parameter holds is given by its dump, and read by the name of its kind.
-/

namespace SqlCompose

namespace Exchange

/-- The last digits of a number in hexadecimal. -/
def hexDigits (width n : Nat) : Json :=
  .string (String.ofList
    ((List.range width).map fun i => Text.hexDigit (n / Nat.pow 16 (width - 1 - i) % 16)))

/-- A number in hexadecimal. -/
def hexNumber? (j : Json) : Option Nat := j.text?.bind fun s => Text.hexNumber? s.toList

/-- Bytes in hexadecimal. -/
def hexBytes? (j : Json) : Option (List UInt8) := j.text?.bind fun s => Text.unhex? s.toList

/-- Content under the name of its type. -/
def typed (type : String) (content : Json) : Json :=
  .object [("t", .string type), ("v", content)]

/-- Year, month and day. -/
def dateItems (d : Date) : List Json :=
  let (y, m, day) := d.civil
  [.ofInt y, .ofNat m, .ofNat day]

/-- Hour, minute, second and nanoseconds. -/
def timeItems (t : Time) : List Json :=
  let (h, m, s, n) := t.clock
  [.ofNat h, .ofNat m, .ofNat s, .ofNat n]

/-- A date by its year, month and day. -/
def date? : List Int → Option Date
  | [y, m, d] => some (.ofCivil y m d)
  | _ => none

/-- A time of day by its hour, minute, second and nanoseconds. -/
def time? : List Int → Option Time
  | [h, m, s, n] => some (.ofClock h.toNat m.toNat s.toNat n.toNat)
  | _ => none

/-- A timestamp by the numbers of its date and its time of day. -/
def timestamp? (ns : List Int) : Option Timestamp := do
  return ⟨← date? (ns.take 3), ← time? (ns.drop 3)⟩

/-- An integer of 64 bits. -/
def int8? (j : Json) : Option Int64 := j.int?.map .ofInt

/-- An integer of 32 bits. -/
def int4? (j : Json) : Option Int32 := j.int?.map .ofInt

/-- A double by its bits. -/
def float8? (j : Json) : Option Float8 := (hexNumber? j).map fun n => ⟨n.toUInt64⟩

/-- An identifier by its digits, with hyphens anywhere. -/
def uuid? (j : Json) : Option Uuid := do
  let s ← j.text?
  return .ofBytes (← Text.unhex? (s.toList.filter (· ≠ '-')))

/-- An integer of 64 bits, or null. -/
def int8Option? : Json → Option (Option Int64)
  | .null => some none
  | j => (int8? j).map some

end Exchange

open Exchange

/-- What a parameter of a kind holds. -/
def Payload.ofJson? (kind : String) (j : Json) : Option Payload :=
  match kind with
  | "i64" => (int8? j).map .int8
  | "text" => j.text?.map .text
  | "f64" => (float8? j).map .float8
  | "bool" => j.bool?.map .bool
  | "i64[]" => (j.list? int8?).map .int8s
  | "i32[]" => (j.list? int4?).map .int4s
  | "text[]" => (j.list? Json.text?).map .texts
  | "bool[]" => (j.list? Json.bool?).map .bools
  | "f64[]" => (j.list? float8?).map .float8s
  | "opt_i64[]" => (j.list? int8Option?).map .int8Options
  | _ => none

/-- The value of a type with some content. -/
def Value.ofTyped? (type : String) (v : Json) : Option Value :=
  match type with
  | "null" => some .null
  | "bool" => v.bool?.map .bool
  | "i16" => v.int?.map fun n => .smallInt (.ofInt n)
  | "i32" => (int4? v).map .int
  | "i64" => (int8? v).map .bigInt
  | "f32" => (hexNumber? v).map fun n => .real ⟨n.toUInt32⟩
  | "f64" => (float8? v).map .double
  | "text" => v.text?.map .text
  | "bytes" => (hexBytes? v).map .bytes
  | "date" => ((v.list? Json.int?).bind date?).map .date
  | "time" => ((v.list? Json.int?).bind time?).map .time
  | "ts" => ((v.list? Json.int?).bind timestamp?).map .timestamp
  | "tstz" => ((v.list? Json.int?).bind timestamp?).map .timestampTz
  | "uuid" => (uuid? v).map .uuid
  | "json" => (v.text?.bind Json.parse?).map .json
  | _ => none

/-- The JSON form of a value. -/
def Value.toJson : Value → Json
  | .null => .null
  | .bool b => typed "bool" (.bool b)
  | .smallInt n => typed "i16" (.ofInt n.toInt)
  | .int n => typed "i32" (.ofInt n.toInt)
  | .bigInt n => typed "i64" (.ofInt n.toInt)
  | .real x => typed "f32" (hexDigits 8 x.bits.toNat)
  | .double x => typed "f64" (hexDigits 16 x.bits.toNat)
  | .text s => typed "text" (.string s)
  | .bytes bs => typed "bytes" (.string (Text.hex bs))
  | .date d => typed "date" (.array (dateItems d))
  | .time t => typed "time" (.array (timeItems t))
  | .timestamp t => typed "ts" (.array (dateItems t.date ++ timeItems t.time))
  | .timestampTz t => typed "tstz" (.array (dateItems t.date ++ timeItems t.time))
  | .uuid u => typed "uuid" (.string u.text)
  | .json j => typed "json" (.string j.text)
  | .custom p => typed "custom" (.string p.payload.dump)

end SqlCompose
