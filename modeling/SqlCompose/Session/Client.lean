import SqlCompose.Session.Server

/-!
# Clients

A client executes statements, either plainly or with a configuration and a logger. Deadlines nest: a
call has the time that the configuration gives, and at most the time that the caller gives.
-/

namespace SqlCompose

/-- What statements are executed on. -/
structure Client where
  /-- Executes a statement for its rows. -/
  query : String → List Value → Call (List Row)
  /-- Executes a statement for the number of affected rows. -/
  execute : String → List Value → Call Nat
  /-- Whether a running statement can be cancelled. -/
  cancels : Bool
  /-- What happens before a statement is sent. -/
  logStatement : Built → List Event

/-- A client with a configuration and a logger. -/
structure Db where
  client : Client
  config : Config
  logger : Logger
  /-- How elapsed times are written in the log. -/
  clock : Duration → String

/-- A connection to a server. -/
def Client.plain (server : Server) : Client where
  query := server.query
  execute := server.execute
  cancels := true
  logStatement b := [.emitted .debug [("param_count", .number b.args.length),
    ("sql", .text (truncate b.sql (some defaultMaxSqlLength)))]]

namespace Db

/-- A client with the configuration to start from. -/
def ofClient (client : Client) (clock : Duration → String) : Db :=
  ⟨client, .initial, .events Config.initial.level, clock⟩

/-- A connection to a server with the configuration to start from. -/
def ofServer (server : Server) (clock : Duration → String) : Db := ofClient (.plain server) clock

/-- Replaces the configuration; the default logger takes its level. -/
def withConfig (db : Db) (c : Config) : Db := { db with config := c, logger := .events c.level }

/-- Replaces the logger. -/
def withLogger (db : Db) (l : Logger) : Db := { db with logger := l }

/-- Limits the time of a statement. -/
def withQueryTimeout (db : Db) (d : Duration) : Db :=
  { db with config := db.config.withQueryTimeout d }

/-- What is logged after a statement. -/
def statsLine (db : Db) (verb : String) (rows : Nat) (elapsed : Duration) : String :=
  "(" ++ verb ++ " " ++ toString rows ++ " rows in " ++ db.clock elapsed ++ ")"

/-- Logs the number of rows and the time of a call that succeeds. -/
def withStats {α : Type} (db : Db) (verb : String) (rows : α → Nat) (c : Call α) : Call α :=
  if db.config.logsStats then
    c.onSuccess fun elapsed a => db.logger.write 3 (db.statsLine verb (rows a) elapsed)
  else c

/-- Gives a call the time of the configuration. -/
def limited {α : Type} (db : Db) (c : Call α) : Call α :=
  c.within db.client.cancels db.config.queryTimeout

/-- Executes a statement for its rows. -/
def query (db : Db) (sql : String) (args : List Value) : Call (List Row) :=
  db.withStats "fetched" List.length (db.limited (db.client.query sql args))

/-- Executes a statement for the number of affected rows. -/
def execute (db : Db) (sql : String) (args : List Value) : Call Nat :=
  db.withStats "affected" id (db.limited (db.client.execute sql args))

/-- Logs a statement before it is sent. -/
def logStatement (db : Db) (b : Built) : List Event :=
  if db.config.logSql then db.logger.write 2 (db.config.statementLine b) else []

end Db

/-- A configured client is a client. -/
def Client.configured (db : Db) : Client where
  query := db.query
  execute := db.execute
  cancels := db.client.cancels
  logStatement := db.logStatement

/-- The first of some rows. -/
def firstRow {α : Type} (rows : List α) : Except SqlError α :=
  match rows with
  | r :: _ => .ok r
  | [] => .error (.notFound "Expected one row, got none")

/-- The only one of some rows. -/
def onlyRow {α : Type} (rows : List α) : Except SqlError α :=
  match rows with
  | [r] => .ok r
  | [] => .error (.notFound "Expected 1 row, got 0")
  | _ => .error (.tooManyRows 1 rows.length)

namespace Client

/-- Executes a statement for its first row. -/
def queryOne (c : Client) (sql : String) (args : List Value) : Call Row :=
  (c.query sql args).thenDo firstRow

/-- Executes a statement for its only row. -/
def queryOneStrict (c : Client) (sql : String) (args : List Value) : Call Row :=
  (c.query sql args).thenDo onlyRow

/-- Executes a statement for its first row, if there is one. -/
def queryOpt (c : Client) (sql : String) (args : List Value) : Call (Option Row) :=
  (c.query sql args).thenDo fun rows => .ok rows.head?

/-- Executes a statement for its rows within some time. -/
def queryWithin (c : Client) (limit : Duration) (sql : String) (args : List Value) :
    Call (List Row) :=
  (c.query sql args).within c.cancels (some limit)

/-- Executes a statement for the number of affected rows within some time. -/
def executeWithin (c : Client) (limit : Duration) (sql : String) (args : List Value) : Call Nat :=
  (c.execute sql args).within c.cancels (some limit)

end Client

end SqlCompose
