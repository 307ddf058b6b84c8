import SqlCompose.Value.Literal
import SqlCompose.Wire.PgType

/-!
# Binary forms of values

How values travel to the database. Numbers are big-endian, times count microseconds, dates count
days from 2000-01-01. A value of a common type has one binary form; a checked encoding also asks
whether the database type expects it.
-/

namespace SqlCompose

namespace Wire

/-- The last `count` bytes of an integer, the most significant first. -/
def bigEndian (count : Nat) (n : Int) : List UInt8 :=
  (List.range count).map fun i =>
    (n / (Nat.pow 256 (count - 1 - i) : Int) % 256).toNat.toUInt8

/-- The nanoseconds of a time of day after midnight. -/
def timeNanos (t : Time) : Int := t.seconds * 1000000000 + t.nanos

/-- Microseconds of some nanoseconds; the rest is cut off toward zero. -/
def micros (nanos : Int) : Int := nanos.tdiv 1000

/-- The bytes of a time of day. -/
def timeBytes (t : Time) : List UInt8 := bigEndian 8 (micros (timeNanos t))

/-- The bytes of a timestamp. -/
def timestampBytes (t : Timestamp) : List UInt8 :=
  bigEndian 8 (micros (t.date.days * 86400000000000 + timeNanos t.time))

/-- The bytes of a text. -/
def textBytes (s : String) : List UInt8 := s.toUTF8.toList

/-- An element of an array with its length; a null has length minus one. -/
def elementBytes : Option (List UInt8) → List UInt8
  | some bs => bigEndian 4 bs.length ++ bs
  | none => bigEndian 4 (-1)

/-- An array of one dimension, counted from one. -/
def arrayBytes (element : PgType) (items : List (Option (List UInt8))) : List UInt8 :=
  bigEndian 4 1 ++ bigEndian 4 (if items.any Option.isNone then 1 else 0) ++
    bigEndian 4 element.objectId ++ bigEndian 4 items.length ++ bigEndian 4 1 ++
    items.flatMap elementBytes

end Wire

/-- A host type: what a value is on this side of the wire. -/
inductive HostType where
  | bool
  | int2
  | int4
  | int8
  | float4
  | float8
  | text
  | bytes
  | date
  | time
  | timestamp
  | timestampTz
  | uuid
  | json
  | list (element : HostType)
  | optional (content : HostType)
  deriving DecidableEq, Repr

/-- Whether a database type can hold values of a host type. -/
def HostType.accepts : HostType → PgType → Bool
  | .bool, t => t == .bool
  | .int2, t => t == .int2
  | .int4, t => t == .int4
  | .int8, t => t == .int8
  | .float4, t => t == .float4
  | .float8, t => t == .float8
  | .text, t => t.isText
  | .bytes, t => t == .bytea
  | .date, t => t == .date
  | .time, t => t == .time
  | .timestamp, t => t == .timestamp
  | .timestampTz, t => t == .timestamptz
  | .uuid, t => t == .uuid
  | .json, t => t == .json || t == .jsonb
  | .list element, t =>
    match t.element? with
    | some e => element.accepts e
    | none => false
  | .optional content, t => content.accepts t

/-- The host type of what a parameter holds. -/
def Payload.hostType : Payload → HostType
  | .int8 _ => .int8
  | .text _ => .text
  | .float8 _ => .float8
  | .bool _ => .bool
  | .int8s _ => .list .int8
  | .int4s _ => .list .int4
  | .texts _ => .list .text
  | .bools _ => .list .bool
  | .float8s _ => .list .float8
  | .int8Options _ => .list (.optional .int8)

/-- The bytes of what a parameter holds. -/
def Payload.bytes : Payload → List UInt8
  | .int8 n => Wire.bigEndian 8 n.toInt
  | .text s => Wire.textBytes s
  | .float8 x => Wire.bigEndian 8 x.bits.toNat
  | .bool b => [if b then 1 else 0]
  | .int8s ns => Wire.arrayBytes .int8 (ns.map fun n => some (Wire.bigEndian 8 n.toInt))
  | .int4s ns => Wire.arrayBytes .int4 (ns.map fun n => some (Wire.bigEndian 4 n.toInt))
  | .texts ss => Wire.arrayBytes .text (ss.map fun s => some (Wire.textBytes s))
  | .bools bs => Wire.arrayBytes .bool (bs.map fun b => some [if b then 1 else 0])
  | .float8s xs => Wire.arrayBytes .float8 (xs.map fun x => some (Wire.bigEndian 8 x.bits.toNat))
  | .int8Options ns =>
    Wire.arrayBytes .int8 (ns.map fun n => n.map fun n => Wire.bigEndian 8 n.toInt)

/-- A value cannot be sent as a database type. -/
structure EncodeError where
  host : HostType
  type : PgType
  deriving DecidableEq, Repr

namespace Value

/-- The host type of a value; `NULL` has none. -/
def hostType? : Value → Option HostType
  | .null => none
  | .bool _ => some .bool
  | .smallInt _ => some .int2
  | .int _ => some .int4
  | .bigInt _ => some .int8
  | .real _ => some .float4
  | .double _ => some .float8
  | .text _ => some .text
  | .bytes _ => some .bytes
  | .date _ => some .date
  | .time _ => some .time
  | .timestamp _ => some .timestamp
  | .timestampTz _ => some .timestampTz
  | .uuid _ => some .uuid
  | .json _ => some .json
  | .custom p => some p.payload.hostType

/-- The bytes of a value sent as a database type, whether that expects them or not. JSON data has a
version in front when it is sent as `jsonb`. -/
def bytesAs (type : PgType) : Value → Option (List UInt8)
  | .null => none
  | .bool b => some [if b then 1 else 0]
  | .smallInt n => some (Wire.bigEndian 2 n.toInt)
  | .int n => some (Wire.bigEndian 4 n.toInt)
  | .bigInt n => some (Wire.bigEndian 8 n.toInt)
  | .real x => some (Wire.bigEndian 4 x.bits.toNat)
  | .double x => some (Wire.bigEndian 8 x.bits.toNat)
  | .text s => some (Wire.textBytes s)
  | .bytes bs => some bs
  | .date d => some (Wire.bigEndian 4 d.days)
  | .time t => some (Wire.timeBytes t)
  | .timestamp t => some (Wire.timestampBytes t)
  | .timestampTz t => some (Wire.timestampBytes t)
  | .uuid u => some u.bytes
  | .json j => some ((if type = .jsonb then [1] else []) ++ Wire.textBytes j.text)
  | .custom p => some p.payload.bytes

/-- The bytes of a value, if the database type expects its host type. `NULL` has no bytes and fits
every type. -/
def encodeChecked (v : Value) (type : PgType) : Except EncodeError (Option (List UInt8)) :=
  match v.hostType? with
  | none => .ok none
  | some host => if host.accepts type then .ok (v.bytesAs type) else .error ⟨host, type⟩

/-- The bytes of a value. Only parameters of no common type are checked. -/
def encode (v : Value) (type : PgType) : Except EncodeError (Option (List UInt8)) :=
  match v with
  | .custom _ => v.encodeChecked type
  | _ => .ok (v.bytesAs type)

/-- Every database type is accepted at first; the check comes with the encoding. -/
def accepts (_ : PgType) : Bool := true

end Value

end SqlCompose
