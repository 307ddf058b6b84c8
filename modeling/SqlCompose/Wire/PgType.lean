import SqlCompose.Value.Basic

/-!
# Database types

The types of parameters and result columns, by their names in the database.
-/

namespace SqlCompose

/-- A type of the database. -/
inductive PgType where
  | bool
  | int2
  | int4
  | int8
  | float4
  | float8
  | text
  | varchar
  | bpchar
  | name
  | unknown
  | bytea
  | date
  | time
  | timestamp
  | timestamptz
  | uuid
  | json
  | jsonb
  | numeric
  | interval
  | oid
  | char
  | int2s
  | int4s
  | int8s
  | texts
  | bools
  | float8s
  deriving DecidableEq, Repr

namespace PgType

/-- The types with their names. -/
def names : List (PgType × String) := [
  (.bool, "bool"), (.int2, "int2"), (.int4, "int4"), (.int8, "int8"), (.float4, "float4"),
  (.float8, "float8"), (.text, "text"), (.varchar, "varchar"), (.bpchar, "bpchar"), (.name, "name"),
  (.unknown, "unknown"), (.bytea, "bytea"), (.date, "date"), (.time, "time"),
  (.timestamp, "timestamp"), (.timestamptz, "timestamptz"), (.uuid, "uuid"), (.json, "json"),
  (.jsonb, "jsonb"), (.numeric, "numeric"), (.interval, "interval"), (.oid, "oid"), (.char, "char"),
  (.int2s, "_int2"), (.int4s, "_int4"), (.int8s, "_int8"), (.texts, "_text"), (.bools, "_bool"),
  (.float8s, "_float8")]

/-- The name of a type. -/
def typeName (t : PgType) : String :=
  ((names.find? fun p => p.1 == t).map Prod.snd).getD ""

/-- The type of a name. -/
def ofName? (name : String) : Option PgType := (names.find? fun p => p.2 == name).map Prod.fst

/-- Whether values of a type are plain text. -/
def isText : PgType → Bool
  | .text | .varchar | .bpchar | .name | .unknown => true
  | _ => false

/-- The element type of an array type. -/
def element? : PgType → Option PgType
  | .int2s => some .int2
  | .int4s => some .int4
  | .int8s => some .int8
  | .texts => some .text
  | .bools => some .bool
  | .float8s => some .float8
  | _ => none

/-- The number by which the database knows an element type. -/
def objectId : PgType → Nat
  | .bool => 16
  | .int8 => 20
  | .int2 => 21
  | .int4 => 23
  | .text => 25
  | .float8 => 701
  | _ => 0

/-- The type that a parameter has when nothing else is declared. -/
def ofValue : Value → PgType
  | .null | .text _ | .custom _ => .text
  | .bool _ => .bool
  | .smallInt _ => .int2
  | .int _ => .int4
  | .bigInt _ => .int8
  | .real _ => .float4
  | .double _ => .float8
  | .bytes _ => .bytea
  | .date _ => .date
  | .time _ => .time
  | .timestamp _ => .timestamp
  | .timestampTz _ => .timestamptz
  | .uuid _ => .uuid
  | .json _ => .jsonb

end PgType

end SqlCompose
