import SqlCompose.Query

/-!
# Errors of execution

Building a statement never fails; executing it or reading its rows may. An error is its cause, and
`SqlError.message` is its wording.
-/

namespace SqlCompose

/-- A length of time. -/
structure Duration where
  nanos : Nat
  deriving DecidableEq, Repr

namespace Duration

/-- Some milliseconds. -/
def ofMillis (n : Nat) : Duration := ⟨n * 1000000⟩

/-- A number of units with a fraction of `places` digits, less its trailing zeros. -/
def decimal (n unit places : Nat) (suffix : String) : String :=
  let digits := toString (n % unit)
  let padded := List.replicate (places - digits.length) '0' ++ digits.toList
  let fraction := (padded.reverse.dropWhile (· = '0')).reverse
  toString (n / unit) ++ (if n % unit = 0 then "" else "." ++ String.ofList fraction) ++ suffix

/-- A length of time in the largest of s, ms, µs and ns that it reaches. -/
def text (d : Duration) : String :=
  if 1000000000 ≤ d.nanos then decimal d.nanos 1000000000 9 "s"
  else if 1000000 ≤ d.nanos then decimal d.nanos 1000000 6 "ms"
  else if 1000 ≤ d.nanos then decimal d.nanos 1000 3 "µs"
  else decimal d.nanos 1 0 "ns"

end Duration

/-- What can go wrong between the client and the server. -/
inductive Fault where
  /-- The text of the statement cannot be sent. -/
  | unsendable
  /-- The server expects another number of parameters. -/
  | parameterCount (expected got : Nat)
  /-- A parameter cannot be sent as the type that the server expects. -/
  | parameter (index : Nat)
  /-- A row of the answer does not have one value for each column. -/
  | malformedRow
  /-- The server reported an error. -/
  | database
  deriving DecidableEq, Repr

/-- The wording of a fault. -/
def Fault.message : Fault → String
  | .unsendable => "error encoding message to server"
  | .parameterCount expected got =>
    "expected " ++ toString expected ++ " parameters but got " ++ toString got
  | .parameter index => "error serializing parameter " ++ toString index
  | .malformedRow => "error parsing response from server"
  | .database => "db error"

/-- An error that the server reported. -/
structure DatabaseError where
  code : String
  message : String
  constraint : Option String
  deriving DecidableEq, Repr

/-- Why a statement has no result. -/
inductive SqlError where
  | query (fault : Fault)
  | notFound (what : String)
  | tooManyRows (expected got : Nat)
  | uniqueViolation (what : String)
  | foreignKeyViolation (what : String)
  | checkViolation (what : String)
  /-- A column could not be read. -/
  | decode (column reason : String)
  /-- A row could not be read as a target, with the columns that the statement was to return. -/
  | rowMapping (target reason : String) (columns : List ResultColumn)
  | timeout (after : Duration)
  | other (what : String)
  deriving DecidableEq, Repr

/-- The numbered columns of a list, from a first number. -/
def ResultColumn.numbered : Nat → List ResultColumn → List String
  | _, [] => []
  | n, c :: rest => ("#" ++ toString n ++ " " ++ c.text) :: numbered (n + 1) rest

/-- The columns of a statement as messages list them. -/
def ResultColumn.listed (columns : List ResultColumn) : String :=
  if columns.isEmpty then "<unknown>" else ", ".intercalate (numbered 0 columns)

namespace SqlError

/-- The wording of an error. -/
def message : SqlError → String
  | .query fault => "Query error: " ++ fault.message
  | .notFound what => "Not found: " ++ what
  | .tooManyRows expected got =>
    "Too many rows: expected " ++ toString expected ++ ", got " ++ toString got
  | .uniqueViolation what => "Unique constraint violation: " ++ what
  | .foreignKeyViolation what => "Foreign key violation: " ++ what
  | .checkViolation what => "Check constraint violation: " ++ what
  | .decode column reason => "Decode error on column '" ++ column ++ "': " ++ reason
  | .rowMapping target reason columns =>
    "Cannot map row into \x60" ++ target ++ "\x60 (" ++ reason ++ "); statement projects: " ++
      ResultColumn.listed columns
  | .timeout after => "Query timeout after " ++ after.text
  | .other what => what

/-- Whether rows were missing. -/
def isNotFound : SqlError → Bool
  | .notFound _ => true
  | _ => false

/-- Whether a unique constraint was violated. -/
def isUniqueViolation : SqlError → Bool
  | .uniqueViolation _ => true
  | _ => false

/-- Whether a deadline passed. -/
def isTimeout : SqlError → Bool
  | .timeout _ => true
  | _ => false

/-- The error for a report of the server; its code tells violations of constraints apart. -/
def ofDatabase (e : DatabaseError) : SqlError :=
  let what := e.constraint.getD "unknown" ++ ": " ++ e.message
  if e.code = "23505" then .uniqueViolation what
  else if e.code = "23503" then .foreignKeyViolation what
  else if e.code = "23514" then .checkViolation what
  else .query .database

/-- An error of reading a row of a statement as a target: a column that could not be read is told
together with the columns of the statement. -/
def whileMapping (q : Query) (target : String) : SqlError → SqlError
  | .decode column reason =>
    .rowMapping target ("column '" ++ column ++ "': " ++ reason) q.columns
  | e => e

end SqlError

end SqlCompose
