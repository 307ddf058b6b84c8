import SqlCompose.Fragment

/-!
# Dialects

A dialect fixes how the placeholder of the n-th value is spelled. `renumber` turns neutral text into
a dialect's text; it runs once, on the outermost statement.
-/

namespace SqlCompose

/-- The placeholder syntax of a database. -/
inductive Dialect where
  /-- `$1`, `$2`, … -/
  | postgres
  /-- `?` for every value. -/
  | mysql
  /-- `?1`, `?2`, … -/
  | sqlite
  deriving DecidableEq, Repr, Inhabited

/-- A statement in a dialect's text, ready for execution. -/
structure Built where
  sql : String
  args : List Value
  dialect : Dialect
  deriving Repr

namespace Dialect

/-- The name of a dialect. -/
def name : Dialect → String
  | .postgres => "postgres"
  | .mysql => "mysql"
  | .sqlite => "sqlite"

/-- The placeholder of the `n`-th value, counted from one. -/
def placeholder (d : Dialect) (n : Nat) : List Char :=
  match d with
  | .postgres => '$' :: Nat.toDigits 10 n
  | .mysql => ['?']
  | .sqlite => '?' :: Nat.toDigits 10 n

/-- The units of a neutral text in a dialect, when `n` slots came before. -/
def spell (d : Dialect) : Nat → List Neutral.Mark → List Char
  | _, [] => []
  | n, .literal c :: rest => c :: d.spell n rest
  | n, .slot :: rest => d.placeholder (n + 1) ++ d.spell (n + 1) rest

/-- A fragment in a dialect: slots are numbered from one, and literal marks lose their double. -/
def renumber (d : Dialect) (f : Fragment) : Built :=
  ⟨String.ofList (d.spell 0 (Neutral.marks f.sql.toList)), f.args, d⟩

end Dialect

end SqlCompose
