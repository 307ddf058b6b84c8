import SqlCompose.Json.Basic

/-!
# Parts of JSON data

Small readers and writers for data of a known shape.
-/

namespace SqlCompose.Json

/-- The value of an object's member. -/
def member? : Json → String → Option Json
  | .object members, key => (members.find? fun m => m.1 == key).map Prod.snd
  | _, _ => none

/-- The value of an object's member, null if there is none. -/
def get (j : Json) (key : String) : Json := (j.member? key).getD .null

/-- The value of an object's member that is there and not null. -/
def get? (j : Json) (key : String) : Option Json :=
  match j.get key with
  | .null => none
  | v => some v

/-- A text. -/
def text? : Json → Option String
  | .string s => some s
  | _ => none

/-- A truth value. -/
def bool? : Json → Option Bool
  | .bool b => some b
  | _ => none

/-- An integer. -/
def int? : Json → Option Int
  | .number (.natural n) => some n
  | .number (.negative n) => some n
  | _ => none

/-- An integer from zero up. -/
def nat? : Json → Option Nat
  | .number (.natural n) => some n
  | _ => none

/-- The items of an array. -/
def items? : Json → Option (List Json)
  | .array items => some items
  | _ => none

/-- An array whose items are all read. -/
def list? {α : Type} (f : Json → Option α) (j : Json) : Option (List α) :=
  j.items?.bind fun js => js.mapM f

/-- An integer as JSON data. -/
def ofInt (n : Int) : Json := .number (if n < 0 then .negative n else .natural n.toNat)

/-- A natural number as JSON data. -/
def ofNat (n : Nat) : Json := .number (.natural n)

/-- Null for nothing. -/
def ofOption {α : Type} (f : α → Json) : Option α → Json
  | some a => f a
  | none => .null

end SqlCompose.Json
