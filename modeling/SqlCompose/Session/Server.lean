import SqlCompose.Session.Call
import SqlCompose.Session.Row

/-!
# A scripted server

A server that answers every statement alike. Executing a statement has three steps: the statement is
prepared, its parameters are bound, and it is run. The script says what the server returns and where
it fails or stays silent.
-/

namespace SqlCompose

/-- The steps at which a server answers. -/
inductive Step where
  | parse
  | execute
  deriving DecidableEq, Repr

/-- What a server answers. -/
structure Server where
  /-- The types of the parameters that it expects. -/
  paramTypes : List PgType
  columns : List Column
  rows : List (List (Option (List UInt8)))
  /-- What the server says when it is done. -/
  tag : String
  error : Option (Step × DatabaseError)
  /-- The step that is never answered. -/
  hang : Option Step
  /-- The time before the statement has run. -/
  delay : Duration

namespace Server

/-- The encoded parameters, or the index of the first that does not fit. -/
def bindAll : Nat → List (Value × PgType) → Except Fault (List (Option (List UInt8)))
  | _, [] => .ok []
  | index, (v, type) :: rest =>
    match v.encodeChecked type with
    | .error _ => .error (.parameter index)
    | .ok bytes => (bindAll (index + 1) rest).map (bytes :: ·)

/-- The encoded parameters of a statement: there must be one for each type. -/
def bind (s : Server) (args : List Value) : Except Fault (List (Option (List UInt8))) :=
  if s.paramTypes.length = args.length then bindAll 0 (args.zip s.paramTypes)
  else .error (.parameterCount s.paramTypes.length args.length)

/-- The error that a server reports at a step. -/
def errorAt (s : Server) (step : Step) : Option SqlError :=
  match s.error with
  | some (at_, e) => if at_ = step then some (.ofDatabase e) else none
  | none => none

/-- What comes of running a statement: the answer comes first, and an error of the server ends
it. -/
def ending {α : Type} (s : Server) (answer : Except SqlError α) : Except SqlError α :=
  match answer, s.errorAt .execute with
  | .ok _, some e => .error e
  | _, _ => answer

/-- Executes a statement; `answer` is what the client reads when the server reports no error. -/
def run {α : Type} (s : Server) (sql : String) (args : List Value)
    (answer : Except SqlError α) : Call α :=
  if sql.toList.any (·.toNat = 0) then .immediate [] (.error (.query .unsendable))
  else if s.hang = some .parse then .hanging [.parsed sql]
  else
    match s.errorAt .parse with
    | some e => .immediate [.parsed sql] (.error e)
    | none =>
      match s.bind args with
      | .error fault => .immediate [.parsed sql] (.error (.query fault))
      | .ok params =>
        let events := [.parsed sql, .bound params]
        if s.hang = some .execute then .hanging events
        else .delayed events s.delay (s.ending answer)

/-- The number of rows that a tag reports: its last word, if that is a number of 64 bits. -/
def affectedRows (tag : String) : Nat :=
  let word := (tag.toList.reverse.takeWhile (· ≠ ' ')).reverse
  let digits :=
    match word with
    | '+' :: rest => rest
    | _ => word
  if digits.isEmpty || digits.any (! ·.isDigit) then 0
  else
    let n := digits.foldl (fun n c => n * 10 + (c.toNat - 48)) 0
    if n ≤ 0xffffffffffffffff then n else 0

/-- The rows of the answer: each must have one value for each column. -/
def readRows (s : Server) : Except SqlError (List Row) :=
  if s.rows.all fun cells => cells.length = s.columns.length then
    .ok (s.rows.map fun cells => ⟨s.columns, cells⟩)
  else .error (.query .malformedRow)

/-- Executes a statement for its rows. -/
def query (s : Server) (sql : String) (args : List Value) : Call (List Row) :=
  s.run sql args s.readRows

/-- Executes a statement for the number of affected rows; the rows of the answer are not read. -/
def execute (s : Server) (sql : String) (args : List Value) : Call Nat :=
  s.run sql args (.ok (affectedRows s.tag))

end Server

end SqlCompose
