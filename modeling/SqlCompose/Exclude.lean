/-!
# Excluded qualifiers

While one expression is laid out, columns of some tables stand without their qualifier. An entry may
be written with a trailing dot.
-/

namespace SqlCompose

/-- The qualifiers that do not stand before a column name. -/
structure Exclude where
  qualifiers : List String
  deriving DecidableEq, Repr

namespace Exclude

/-- Every qualifier stands. -/
def none : Exclude := ⟨[]⟩

/-- Adds a qualifier. -/
def insert (e : Exclude) (qualifier : String) : Exclude := ⟨e.qualifiers ++ [qualifier]⟩

/-- Whether nothing is excluded. -/
def isEmpty (e : Exclude) : Bool := e.qualifiers.isEmpty

/-- An entry without its trailing dot; of several dots only the last is dropped. -/
def stripDot (s : String) : String :=
  match s.toList.reverse with
  | '.' :: rest => String.ofList rest.reverse
  | _ => s

/-- Whether a qualifier is left out. -/
def contains (e : Exclude) (qualifier : String) : Bool :=
  e.qualifiers.any fun q => stripDot q == qualifier

end Exclude

end SqlCompose
