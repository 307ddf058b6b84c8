import SqlCompose.Select
import SqlCompose.Session.Client

/-!
# Executing statements

A statement is built, a warning is emitted if it would change every row of its target, it is logged,
and then it is sent. Rows are read by a decoder; a column that cannot be read is reported together
with the columns of the statement.
-/

namespace SqlCompose

namespace Query

/-- The warning about a statement that changes every row. -/
def warning (b : Built) : Event :=
  .emitted .warn [("sql", .text b.sql),
    ("message", .text "statement has no WHERE clause and affects every row")]

/-- What happens before a statement is sent. -/
def prelude (q : Query) (c : Client) : List Event :=
  (if q.changesEveryRow then [warning q.build] else []) ++ c.logStatement q.build

/-- Sends a statement by one of the ways of a client. -/
def send {α : Type} (q : Query) (c : Client) (way : Client → String → List Value → Call α) :
    Call α :=
  (way c q.build.sql q.build.args).after (q.prelude c)

/-- All rows. -/
def query (q : Query) (c : Client) : Call (List Row) := q.send c Client.query

/-- The first row. -/
def queryOne (q : Query) (c : Client) : Call Row := q.send c Client.queryOne

/-- The only row. -/
def queryOneStrict (q : Query) (c : Client) : Call Row := q.send c Client.queryOneStrict

/-- The first row, if there is one. -/
def queryOpt (q : Query) (c : Client) : Call (Option Row) := q.send c Client.queryOpt

/-- The number of affected rows. -/
def execute (q : Query) (c : Client) : Call Nat := q.send c Client.execute

variable {α : Type}

/-- Reads one row of a statement. -/
def decodeRow (q : Query) (d : RowDecoder α) (r : Row) : Except SqlError α :=
  (d.decode r).mapError (.whileMapping q d.target)

/-- Reads all rows of a statement. -/
def decodeRows (q : Query) (d : RowDecoder α) (rows : List Row) : Except SqlError (List α) :=
  (d.decodeAll rows).mapError (.whileMapping q d.target)

/-- Reads a row of a statement if there is one. -/
def decodeOpt (q : Query) (d : RowDecoder α) : Option Row → Except SqlError (Option α)
  | some r => (q.decodeRow d r).map some
  | none => .ok none

/-- All rows, read by a decoder. -/
def fetchAll (q : Query) (c : Client) (d : RowDecoder α) : Call (List α) :=
  (q.query c).thenDo (q.decodeRows d)

/-- The first row, read by a decoder, if there is one. -/
def fetchOpt (q : Query) (c : Client) (d : RowDecoder α) : Call (Option α) :=
  (q.queryOpt c).thenDo (q.decodeOpt d)

/-- The first row, read by a decoder. -/
def fetchOne (q : Query) (c : Client) (d : RowDecoder α) : Call α :=
  (q.queryOne c).thenDo (q.decodeRow d)

/-- The only row, read by a decoder. -/
def fetchOneStrict (q : Query) (c : Client) (d : RowDecoder α) : Call α :=
  (q.queryOneStrict c).thenDo (q.decodeRow d)

end Query

namespace Select

/-- The number of rows of a statement; `target` names what a row is read as. -/
def count (s : Select) (c : Client) (target : String) : StateM Naming (Call Cell) := do
  let q ← s.countQuery
  return (Query.select q).fetchOne c (.single target .int8)

/-- Whether a statement has a row; `target` names what a row is read as. -/
def hasRows (s : Select) (c : Client) (target : String) : StateM Naming (Call Cell) := do
  let q ← s.existsQuery
  return (Query.select q).fetchOne c (.single target .bool)

end Select

end SqlCompose
