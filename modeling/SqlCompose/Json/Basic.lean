import SqlCompose.Number.Binary

/-!
# JSON data

Numbers are integers of 64 bits where they fit and doubles otherwise. The members of an object are
kept in the order of their keys, each key once.
-/

namespace SqlCompose

/-- A JSON number. -/
inductive JsonNumber where
  /-- An integer from zero up. -/
  | natural (n : Nat)
  /-- An integer below zero. -/
  | negative (n : Int)
  /-- Any other number. -/
  | float (x : Float8)
  deriving DecidableEq, Repr

/-- A JSON value. -/
inductive Json where
  | null
  | bool (b : Bool)
  | number (n : JsonNumber)
  | string (s : String)
  | array (items : List Json)
  | object (members : List (String × Json))
  deriving Repr

/-- Equality of numbers: integers with integers, doubles by value. -/
def JsonNumber.same : JsonNumber → JsonNumber → Bool
  | .float x, .float y => x.read.sameNumber y.read
  | a, b => a == b

namespace Json

mutual

/-- Equality of values; object members are compared in order. -/
def same : Json → Json → Bool
  | .null, .null => true
  | .bool a, .bool b => a == b
  | .number a, .number b => a.same b
  | .string a, .string b => a == b
  | .array as, .array bs => sameItems as bs
  | .object as, .object bs => sameMembers as bs
  | _, _ => false

/-- Equality of array items, one by one. -/
def sameItems : List Json → List Json → Bool
  | [], [] => true
  | a :: as, b :: bs => a.same b && sameItems as bs
  | _, _ => false

/-- Equality of object members, one by one. -/
def sameMembers : List (String × Json) → List (String × Json) → Bool
  | [], [] => true
  | (k, a) :: as, (l, b) :: bs => k == l && a.same b && sameMembers as bs
  | _, _ => false
end

/-- Adds a member at its place; a key that is there already takes the new value. -/
def insertMember (key : String) (value : Json) : List (String × Json) → List (String × Json)
  | [] => [(key, value)]
  | (k, v) :: rest =>
    if key = k then (key, value) :: rest
    else if key < k then (key, value) :: (k, v) :: rest
    else (k, v) :: insertMember key value rest

end Json

end SqlCompose
