import SqlCompose.Json.Printer
import SqlCompose.Text.Quoted
import SqlCompose.Value.Basic

/-!
# Values in SQL text and in dumps

`Value.literal` writes a value as an SQL literal, for logs and messages; `Value.dump` names its
form.
-/

namespace SqlCompose

/-- The hyphenated text of an identifier: 8, 4, 4, 4 and 12 digits. -/
def Uuid.text (u : Uuid) : String :=
  let digits := u.bytes.flatMap Text.hexByte
  "-".intercalate ([(0, 8), (8, 4), (12, 4), (16, 4), (20, 12)].map fun (start, count) =>
    String.ofList ((digits.drop start).take count))

/-- The dump of a truth value. -/
def Text.dumpBool (b : Bool) : String := if b then "true" else "false"

/-- The dump of what a parameter holds. -/
def Payload.dump : Payload → String
  | .int8 n => toString n
  | .text s => Text.dump s
  | .float8 x => x.dump
  | .bool b => Text.dumpBool b
  | .int8s ns => Text.dumpList (ns.map toString)
  | .int4s ns => Text.dumpList (ns.map toString)
  | .texts ss => Text.dumpList (ss.map Text.dump)
  | .bools bs => Text.dumpList (bs.map Text.dumpBool)
  | .float8s xs => Text.dumpList (xs.map Float8.dump)
  | .int8Options ns => Text.dumpList (ns.map fun
    | some n => "Some(" ++ toString n ++ ")"
    | none => "None")

namespace Value

/-- The text of a double in SQL: digits when it is finite and a quoted word otherwise. -/
def floatLiteral (x : Float8) : String :=
  NumberStyle.plain.number .double
    (fun
      | .nan => "'NaN'"
      | .infinite true => "'-Infinity'"
      | _ => "'Infinity'")
    x.read

/-- The SQL literal of a value. It is never executed. -/
def literal : Value → String
  | .null => "NULL"
  | .bool b => if b then "TRUE" else "FALSE"
  | .smallInt n => toString n
  | .int n => toString n
  | .bigInt n => toString n
  | .real x => floatLiteral x.widen
  | .double x => floatLiteral x
  | .text s => Text.quote s
  | .bytes bs => "'\\x" ++ Text.hex bs ++ "'"
  | .date d => Text.quote d.text
  | .time t => Text.quote t.text
  | .timestamp t => Text.quote (t.text " ")
  | .timestampTz t => Text.quote (t.text "T" ++ "+00:00")
  | .uuid u => Text.quote u.text
  | .json j => Text.quote j.text
  | .custom p => p.payload.dump

/-- The dump of a value: its form and what it holds. -/
def dump : Value → String
  | .null => "Null"
  | .bool b => "Bool(" ++ Text.dumpBool b ++ ")"
  | .smallInt n => "SmallInt(" ++ toString n ++ ")"
  | .int n => "Int(" ++ toString n ++ ")"
  | .bigInt n => "BigInt(" ++ toString n ++ ")"
  | .real x => "Real(" ++ x.dump ++ ")"
  | .double x => "Double(" ++ x.dump ++ ")"
  | .text s => "Text(" ++ Text.dump s ++ ")"
  | .bytes bs => "Bytes(" ++ Text.dumpList (bs.map fun b => toString b.toNat) ++ ")"
  | .date d => "Date(" ++ d.text ++ ")"
  | .time t => "Time(" ++ t.text ++ ")"
  | .timestamp t => "Timestamp(" ++ t.text "T" ++ ")"
  | .timestampTz t => "TimestampTz(" ++ t.text "T" ++ "Z)"
  | .uuid u => "Uuid(" ++ u.text ++ ")"
  | .json j => "Json(" ++ j.dump ++ ")"
  | .custom p => "Custom(Param(" ++ p.payload.dump ++ "))"

end Value

end SqlCompose
