import SqlCompose.Dialect
import SqlCompose.Value.Literal

/-!
# Interpolated statements

For logs, every placeholder of a statement is replaced by the literal of its value. A placeholder
without a value stays.
-/

namespace SqlCompose

namespace Interpolation

/-- The largest number that a placeholder may have. -/
def largestNumber : Nat := 0xffffffffffffffff

/-- The number written by decimal digits, if there is one and it fits 64 bits. -/
def number? (digits : List Char) : Option Nat :=
  if digits.isEmpty then none
  else
    let n := digits.foldl (fun n c => n * 10 + (c.toNat - 48)) 0
    if n ≤ largestNumber then some n else none

/-- The text for a numbered placeholder with its sign and digits. A number beyond the values is
written anew. -/
def numbered (args : List Value) (sign : Char) (digits : List Char) : List Char :=
  match number? digits with
  | some (n + 1) =>
    match args[n]? with
    | some v => v.literal.toList
    | none => sign :: Nat.toDigits 10 (n + 1)
  | _ => sign :: digits

/-- Replaces numbered placeholders: a sign with the digits that follow it. `pending` holds the
digits read since a sign. -/
def replaceNumbered (sign : Char) (args : List Value) : Option (List Char) → List Char → List Char
  | none, [] => []
  | some digits, [] => numbered args sign digits
  | none, c :: rest =>
    if c = sign then replaceNumbered sign args (some []) rest
    else c :: replaceNumbered sign args none rest
  | some digits, c :: rest =>
    if c.isDigit then replaceNumbered sign args (some (digits ++ [c])) rest
    else
      numbered args sign digits ++
        if c = sign then replaceNumbered sign args (some []) rest
        else c :: replaceNumbered sign args none rest

/-- Replaces plain question marks, each by the next value. -/
def replaceInOrder : List Value → List Char → List Char
  | _, [] => []
  | args, c :: rest =>
    if c = '?' then
      match args with
      | v :: args => v.literal.toList ++ replaceInOrder args rest
      | [] => '?' :: replaceInOrder [] rest
    else c :: replaceInOrder args rest

end Interpolation

/-- A statement in a dialect's text with its values written in place of the placeholders. -/
def interpolate (d : Dialect) (sql : String) (args : List Value) : String :=
  String.ofList <|
    match d with
    | .postgres => Interpolation.replaceNumbered '$' args none sql.toList
    | .mysql => Interpolation.replaceInOrder args sql.toList
    | .sqlite => Interpolation.replaceNumbered '?' args none sql.toList

/-- The text of a built statement with its values in place. -/
def Built.interpolated (b : Built) : String := interpolate b.dialect b.sql b.args

end SqlCompose
