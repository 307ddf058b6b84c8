import SqlCompose.Calendar
import SqlCompose.Json.Basic

/-!
# Bound values

Every literal that reaches a statement travels as a `Value`. The common scalars have forms of their
own; anything else is held by a `Param`, which is known by its identity.
-/

namespace SqlCompose

/-- A universally unique identifier. -/
structure Uuid where
  bits : BitVec 128
  deriving DecidableEq, Repr

/-- What a parameter of no common type holds: a scalar or an array. -/
inductive Payload where
  | int8 (n : Int64)
  | text (s : String)
  | float8 (x : Float8)
  | bool (b : Bool)
  | int8s (ns : List Int64)
  | int4s (ns : List Int32)
  | texts (ss : List String)
  | bools (bs : List Bool)
  | float8s (xs : List Float8)
  | int8Options (ns : List (Option Int64))
  deriving DecidableEq, Repr

/-- A held value with its identity; copies of one parameter share the identity. -/
structure Param where
  identity : Nat
  payload : Payload
  deriving DecidableEq, Repr

/-- A bound value. -/
inductive Value where
  | null
  | bool (b : Bool)
  | smallInt (n : Int16)
  | int (n : Int32)
  | bigInt (n : Int64)
  | real (x : Float4)
  | double (x : Float8)
  | text (s : String)
  | bytes (bs : List UInt8)
  | date (d : Date)
  | time (t : Time)
  | timestamp (t : Timestamp)
  /-- A timestamp in universal time. -/
  | timestampTz (t : Timestamp)
  | uuid (u : Uuid)
  | json (j : Json)
  | custom (p : Param)
  deriving Repr

/-- The declared type of a field. -/
inductive FieldType where
  | custom
  | bool
  | number
  | string
  | date
  | time
  | timestamp
  | interval
  | array
  | binary
  | json
  | uuid
  deriving DecidableEq, Repr, Inhabited

/-- The name of a field type. -/
def FieldType.name : FieldType → String
  | .custom => "Custom"
  | .bool => "Bool"
  | .number => "Number"
  | .string => "String"
  | .date => "Date"
  | .time => "Time"
  | .timestamp => "Timestamp"
  | .interval => "Interval"
  | .array => "Array"
  | .binary => "Binary"
  | .json => "Json"
  | .uuid => "Uuid"

namespace Value

/-- Whether a value is SQL `NULL`. -/
def isNull : Value → Bool
  | .null => true
  | _ => false

/-- The type that a literal of a value has. -/
def fieldType : Value → FieldType
  | .null | .custom _ => .custom
  | .bool _ => .bool
  | .smallInt _ | .int _ | .bigInt _ | .real _ | .double _ => .number
  | .text _ => .string
  | .bytes _ => .binary
  | .date _ => .date
  | .time _ => .time
  | .timestamp _ | .timestampTz _ => .timestamp
  | .uuid _ => .uuid
  | .json _ => .json

/-- Equality of values of one form: floating-point numbers by value, parameters by identity. -/
def same : Value → Value → Bool
  | .null, .null => true
  | .bool a, .bool b => a == b
  | .smallInt a, .smallInt b => a == b
  | .int a, .int b => a == b
  | .bigInt a, .bigInt b => a == b
  | .real a, .real b => a.read.sameNumber b.read
  | .double a, .double b => a.read.sameNumber b.read
  | .text a, .text b => a == b
  | .bytes a, .bytes b => a == b
  | .date a, .date b => a == b
  | .time a, .time b => a == b
  | .timestamp a, .timestamp b => a == b
  | .timestampTz a, .timestampTz b => a == b
  | .uuid a, .uuid b => a == b
  | .json a, .json b => a.same b
  | .custom a, .custom b => a.identity == b.identity
  | _, _ => false

/-- Equality of lists of values, item by item. -/
def sameList : List Value → List Value → Bool
  | [], [] => true
  | a :: as, b :: bs => a.same b && sameList as bs
  | _, _ => false

end Value

namespace Uuid

/-- The sixteen bytes, the most significant first. -/
def bytes (u : Uuid) : List UInt8 :=
  (List.range 16).map fun i => (u.bits.toNat / Nat.pow 256 (15 - i) % 256).toUInt8

/-- The identifier of some bytes, the most significant first. -/
def ofBytes (bs : List UInt8) : Uuid :=
  ⟨BitVec.ofNat 128 (bs.foldl (fun n b => n * 256 + b.toNat) 0)⟩

end Uuid

end SqlCompose
