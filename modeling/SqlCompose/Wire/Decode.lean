import SqlCompose.Json.Reader
import SqlCompose.Wire.Encode

/-!
# Reading binary forms

How the bytes of a result column are read as a host type. Reading fails when the column's type does
not hold that host type, when a null stands where a value is needed, and when the bytes are not a
form of the type.
-/

namespace SqlCompose

/-- A value read from a column. -/
inductive Cell where
  | value (v : Value)
  | list (cells : List Cell)
  deriving Repr

namespace Wire

/-- The number written by some bytes, the most significant first. -/
def unsigned (bytes : List UInt8) : Nat := bytes.foldl (fun n b => n * 256 + b.toNat) 0

/-- The signed number written by some bytes. -/
def signed (bytes : List UInt8) : Int :=
  let n := unsigned bytes
  if n < Nat.pow 2 (8 * bytes.length - 1) then n else n - Nat.pow 2 (8 * bytes.length)

/-- A signed number of exactly `count` bytes. -/
def integer? (count : Nat) (bytes : List UInt8) : Option Int :=
  if bytes.length = count then some (signed bytes) else none

/-- A signed number of four bytes and the bytes after it. -/
def takeInt4? (bytes : List UInt8) : Option (Int × List UInt8) :=
  if bytes.length < 4 then none else some (signed (bytes.take 4), bytes.drop 4)

/-- A text, if the bytes are one. -/
def text? (bytes : List UInt8) : Option String := String.fromUTF8? (ByteArray.mk bytes.toArray)

/-- JSON data; as `jsonb` it has the version 1 in front. -/
def json? (type : PgType) (bytes : List UInt8) : Option Json :=
  if type = .jsonb then
    match bytes with
    | v :: rest => if v = 1 then (text? rest).bind Json.parse? else none
    | [] => none
  else (text? bytes).bind Json.parse?

/-- The date some days after 2000-01-01, if it can be held. -/
def date? (days : Int) : Option Date := if (Date.mk days).inRange then some ⟨days⟩ else none

/-- The time of day some microseconds after midnight; whole days are dropped. -/
def timeOfMicros (micros : Int) : Time :=
  let m := (micros % 86400000000).toNat
  ⟨m / 1000000, m % 1000000 * 1000⟩

/-- The timestamp some microseconds after 2000-01-01, if its date can be held. -/
def timestamp? (micros : Int) : Option Timestamp :=
  (date? (micros / 86400000000)).map fun d => ⟨d, timeOfMicros micros⟩

/-- The size of an array: the product of its dimensions, which fits 32 bits at every step. -/
def arraySize? : Nat → Int → List UInt8 → Option Int
  | 0, size, _ => some size
  | n + 1, size, bytes => do
    let (length, bytes) ← takeInt4? bytes
    if length < 0 then none
    else
      let (_, bytes) ← takeInt4? bytes
      if 0x80000000 ≤ size * length then none else arraySize? n (size * length) bytes

/-- The elements of an array of at most one dimension; `none` is a null. Nothing may remain. -/
def elements? : Nat → List UInt8 → Option (List (Option (List UInt8)))
  | 0, bytes => if bytes.isEmpty then some [] else none
  | n + 1, bytes => do
    let (length, bytes) ← takeInt4? bytes
    if length < 0 then
      let rest ← elements? n bytes
      return none :: rest
    else if bytes.length < length.toNat then none
    else
      let rest ← elements? n (bytes.drop length.toNat)
      return some (bytes.take length.toNat) :: rest

/-- The elements of an array. More than one dimension is refused. -/
def array? (bytes : List UInt8) : Option (List (Option (List UInt8))) := do
  let (dimensions, bytes) ← takeInt4? bytes
  if dimensions < 0 then none
  else
    let (_, bytes) ← takeInt4? bytes
    let (_, bytes) ← takeInt4? bytes
    if dimensions = 0 then elements? 0 bytes
    else if dimensions = 1 then
      let size ← arraySize? 1 1 bytes
      elements? size.toNat (bytes.drop 8)
    else none

/-- Applies a reader to each of some elements. -/
def all? {α β : Type} (f : α → Option β) : List α → Option (List β)
  | [] => some []
  | a :: rest => do
    let b ← f a
    let bs ← all? f rest
    return b :: bs

end Wire

/-- The value of a host type in the bytes of a column that accepts it; `none` is a null. -/
def HostType.read? (type : PgType) : HostType → Option (List UInt8) → Option Cell
  | .optional _, none => some (.value .null)
  | .optional content, some bs => content.read? type (some bs)
  | _, none => none
  | .bool, some bs =>
    match bs with
    | [b] => some (.value (.bool (b != 0)))
    | _ => none
  | .int2, some bs => (Wire.integer? 2 bs).map fun n => .value (.smallInt (.ofInt n))
  | .int4, some bs => (Wire.integer? 4 bs).map fun n => .value (.int (.ofInt n))
  | .int8, some bs => (Wire.integer? 8 bs).map fun n => .value (.bigInt (.ofInt n))
  | .float4, some bs =>
    if bs.length = 4 then some (.value (.real ⟨(Wire.unsigned bs).toUInt32⟩)) else none
  | .float8, some bs =>
    if bs.length = 8 then some (.value (.double ⟨(Wire.unsigned bs).toUInt64⟩)) else none
  | .text, some bs => (Wire.text? bs).map fun s => .value (.text s)
  | .bytes, some bs => some (.value (.bytes bs))
  | .date, some bs => (Wire.integer? 4 bs).bind fun n =>
    (Wire.date? n).map fun d => .value (.date d)
  | .time, some bs => (Wire.integer? 8 bs).map fun n => .value (.time (Wire.timeOfMicros n))
  | .timestamp, some bs => (Wire.integer? 8 bs).bind fun n =>
    (Wire.timestamp? n).map fun t => .value (.timestamp t)
  | .timestampTz, some bs => (Wire.integer? 8 bs).bind fun n =>
    (Wire.timestamp? n).map fun t => .value (.timestampTz t)
  | .uuid, some bs =>
    if bs.length = 16 then some (.value (.uuid (.ofBytes bs))) else none
  | .json, some bs => (Wire.json? type bs).map fun j => .value (.json j)
  | .list element, some bs => do
    let items ← Wire.array? bs
    let cells ← Wire.all? (element.read? (type.element?.getD type)) items
    return .list cells

/-- The value of a host type in a column that accepts it, if the bytes are a form of it. -/
def HostType.decode? (host : HostType) (type : PgType) (cell : Option (List UInt8)) : Option Cell :=
  if host.accepts type then host.read? type cell else none

end SqlCompose
