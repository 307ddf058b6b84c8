import SqlCompose.Interpolation
import SqlCompose.Session.Error

/-!
# Statement logs

What is logged about a statement and where it goes. Long statements are cut between characters.
-/

namespace SqlCompose

/-- How important an event is. -/
inductive Level where
  | error
  | warn
  | info
  | debug
  | trace
  deriving DecidableEq, Repr

namespace Level

/-- The name of a level. -/
def name : Level → String
  | .error => "ERROR"
  | .warn => "WARN"
  | .info => "INFO"
  | .debug => "DEBUG"
  | .trace => "TRACE"

/-- All levels, the most important first. -/
def all : List Level := [.error, .warn, .info, .debug, .trace]

/-- The level of a name in any case. -/
def ofName? (s : String) : Option Level :=
  all.find? fun l => l.name == String.ofList (s.toList.map Char.toUpper)

end Level

/-- What the log says about a statement. -/
inductive LogMode where
  /-- Its text as it is sent. -/
  | sql
  /-- Its text with the values in place. -/
  | interpolated
  /-- Both, and later the number of rows and the time. -/
  | stats
  deriving DecidableEq, Repr

/-- The name of a mode. -/
def LogMode.name : LogMode → String
  | .sql => "Sql"
  | .interpolated => "Interpolated"
  | .stats => "Stats"

/-- How statements are logged and how long they may take. -/
structure Config where
  /-- The time that a statement may take. -/
  queryTimeout : Option Duration
  /-- Whether statements are logged at all. -/
  logSql : Bool
  /-- The level of the events that the default logger emits. -/
  level : Level
  /-- The most bytes of a statement that are logged. -/
  maxSqlLength : Option Nat
  mode : LogMode
  deriving DecidableEq, Repr

/-- The most bytes of a statement that are logged unless something else is set. -/
def defaultMaxSqlLength : Nat := 200

namespace Config

/-- The configuration to start from. -/
def initial : Config := ⟨none, true, .debug, some defaultMaxSqlLength, .sql⟩

/-- Limits the time of a statement. -/
def withQueryTimeout (c : Config) (d : Duration) : Config := { c with queryTimeout := some d }

/-- Sets the level of the default logger. -/
def withLevel (c : Config) (l : Level) : Config := { c with level := l }

/-- Cuts logged statements to some bytes. -/
def withMaxSqlLength (c : Config) (n : Nat) : Config := { c with maxSqlLength := some n }

/-- Logs statements at full length. -/
def withoutCut (c : Config) : Config := { c with maxSqlLength := none }

/-- Sets what the log says. -/
def withMode (c : Config) (m : LogMode) : Config := { c with mode := m }

/-- Logs no statements. -/
def withoutLog (c : Config) : Config := { c with logSql := false }

/-- Whether the number of rows and the time are logged. -/
def logsStats (c : Config) : Bool := c.logSql && c.mode == .stats

end Config

/-- The longest beginning of some characters that takes at most `max` bytes. -/
def takeBytes : Nat → List Char → List Char
  | _, [] => []
  | max, c :: rest => if c.utf8Size ≤ max then c :: takeBytes (max - c.utf8Size) rest else []

/-- A text of at most `max` bytes; a longer one is cut and ends in three dots. -/
def truncate (s : String) (max : Option Nat) : String :=
  match max with
  | some n => if n < s.utf8ByteSize then String.ofList (takeBytes n s.toList) ++ "..." else s
  | none => s

/-- Going back from a byte position to the end of a character. -/
def Text.backOff (s : String) : Nat → Nat
  | 0 => 0
  | i + 1 => if String.Pos.Raw.isValid s ⟨i + 1⟩ then i + 1 else backOff s i

/-- The text up to a byte position. There is none up to a position inside a character. -/
def Text.upTo? (s : String) (i : Nat) : Option String :=
  if h : String.Pos.Raw.IsValid s ⟨i⟩ then some (s.sliceTo (s.pos ⟨i⟩ h)).copy else none

/-- Cutting by byte positions. There is no result if the cut goes through a character. -/
def truncateBytes? (s : String) (max : Option Nat) : Option String :=
  match max with
  | some n =>
    if n < s.utf8ByteSize then (Text.upTo? s (Text.backOff s n)).map (· ++ "...") else some s
  | none => some s

/-- The line that is logged for a statement. -/
def Config.statementLine (c : Config) (b : Built) : String :=
  match c.mode with
  | .sql => truncate b.sql c.maxSqlLength
  | .interpolated => truncate b.interpolated c.maxSqlLength
  | .stats =>
    truncate b.sql c.maxSqlLength ++ " " ++ Text.dumpList (b.args.map Value.dump) ++
      "\n-- with bind values --\n" ++ truncate b.interpolated c.maxSqlLength

/-- A piece of data in an event. -/
inductive EventField where
  | number (n : Nat)
  | text (s : String)
  deriving DecidableEq, Repr

/-- What happens while statements are executed. -/
inductive Event where
  /-- An event with its level and data. -/
  | emitted (level : Level) (fields : List (String × EventField))
  /-- A line handed to a logger of the program. -/
  | logged (depth : Nat) (line : String)
  /-- The server was given a statement to prepare. -/
  | parsed (sql : String)
  /-- The server was given the parameters of a prepared statement. -/
  | bound (params : List (Option (List UInt8)))
  /-- The server was asked to give up the statement it works on. -/
  | cancelled
  deriving DecidableEq, Repr

/-- Where log lines go. -/
inductive Logger where
  /-- Lines become events of a level. -/
  | events (level : Level)
  /-- Lines are handed to the program. -/
  | recording
  /-- Lines are dropped. -/
  | silent
  deriving DecidableEq, Repr

/-- What a logger does with a line; the depth counts the calls above it. -/
def Logger.write (l : Logger) (depth : Nat) (line : String) : List Event :=
  match l with
  | .events level => [.emitted level [("call_depth", .number depth), ("message", .text line)]]
  | .recording => [.logged depth line]
  | .silent => []

end SqlCompose
