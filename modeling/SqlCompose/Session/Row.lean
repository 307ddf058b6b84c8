import SqlCompose.Session.Error
import SqlCompose.Wire.Decode

/-!
# Rows

The rows that a statement returns, and how they are read: a column is found by position or by name,
and a target reads its columns from left to right until one fails.
-/

namespace SqlCompose

/-- A column of a result. -/
structure Column where
  name : String
  type : PgType
  deriving DecidableEq, Repr

/-- A row with the columns of its result. -/
structure Row where
  columns : List Column
  cells : List (Option (List UInt8))
  deriving DecidableEq, Repr

/-- How rows are read as a target, and the target's name in messages. -/
structure RowDecoder (α : Type) where
  target : String
  decode : Row → Except SqlError α

namespace Row

/-- The wording for a column that is not there. -/
def missing (column : String) : String := "invalid column \x60" ++ column ++ "\x60"

/-- The wording for a column that cannot be read. -/
def unreadable (index : Nat) : String := "error deserializing column " ++ toString index

/-- The value at a position as a host type, or what is wrong with it. -/
def read (r : Row) (index : Nat) (host : HostType) : Except String Cell :=
  match r.columns[index]?, r.cells[index]? with
  | some column, some cell =>
    match host.decode? column.type cell with
    | some v => .ok v
    | none => .error (unreadable index)
  | _, _ => .error (missing (toString index))

/-- The value at a position as a host type. An error names the column, or the position where there
is none. -/
def cellAt (r : Row) (index : Nat) (host : HostType) : Except SqlError Cell :=
  match r.read index host with
  | .ok v => .ok v
  | .error reason =>
    .error (.decode (((r.columns[index]?).map Column.name).getD ("#" ++ toString index)) reason)

/-- A name without regard to the case of the letters A to Z. -/
def foldCase (s : String) : String := String.ofList (s.toList.map Char.toLower)

/-- The position of a name: the first that is equal, else the first that is equal but for case. -/
def find? (r : Row) (name : String) : Option Nat :=
  match r.columns.findIdx? fun c => c.name == name with
  | some i => some i
  | none => r.columns.findIdx? fun c => foldCase c.name == foldCase name

/-- The value of a named column as a host type. -/
def named (r : Row) (name : String) (host : HostType) : Except SqlError Cell :=
  match r.find? name with
  | none => .error (.decode name (missing name))
  | some index =>
    match r.read index host with
    | .ok v => .ok v
    | .error reason => .error (.decode name reason)

/-- The values of the first columns, from a position on. -/
def positional (r : Row) : Nat → List HostType → Except SqlError (List Cell)
  | _, [] => .ok []
  | index, host :: rest => do
    let v ← r.cellAt index host
    let vs ← r.positional (index + 1) rest
    return v :: vs

/-- The values of some named columns. -/
def byName (r : Row) : List (String × HostType) → Except SqlError (List Cell)
  | [] => .ok []
  | (name, host) :: rest => do
    let v ← r.named name host
    let vs ← r.byName rest
    return v :: vs

end Row

namespace RowDecoder

/-- Reads a row as it is. -/
def whole (target : String) : RowDecoder Row := ⟨target, .ok⟩

/-- Reads the first columns as a tuple. -/
def tuple (target : String) (hosts : List HostType) : RowDecoder (List Cell) :=
  ⟨target, fun r => r.positional 0 hosts⟩

/-- Reads named columns as a record. -/
def record (target : String) (fields : List (String × HostType)) : RowDecoder (List Cell) :=
  ⟨target, fun r => r.byName fields⟩

/-- Reads the first column. -/
def single (target : String) (host : HostType) : RowDecoder Cell :=
  ⟨target, fun r => r.cellAt 0 host⟩

/-- Reads all rows; the first row that fails decides. -/
def decodeAll {α : Type} (d : RowDecoder α) : List Row → Except SqlError (List α)
  | [] => .ok []
  | r :: rest => do
    let a ← d.decode r
    let as ← d.decodeAll rest
    return a :: as

end RowDecoder

end SqlCompose
