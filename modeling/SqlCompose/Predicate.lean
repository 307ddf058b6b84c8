import SqlCompose.Field

/-!
# Predicates

Groups of conditions and the conditions around statements.
-/

namespace SqlCompose.Predicate

/-- A group of conditions, in parentheses where it needs them. -/
def ofList (connective : Connective) (members : List Predicate) : Predicate :=
  .group connective members false

/-- All conditions hold. -/
def all (members : List Predicate) : Predicate := ofList .and members

/-- One of the conditions holds. -/
def any (members : List Predicate) : Predicate := ofList .or members

/-- SQL text taken literally. -/
def raw (sql : String) : Predicate := .custom (Neutral.escape sql) []

/-- Lets a group stand without parentheses; other predicates stay as they are. -/
def topLevel : Predicate → Predicate
  | .group connective members _ => .group connective members true
  | p => p

/-- Adds a condition to a group with a connective; other predicates are grouped with it. -/
def extend (p : Predicate) (connective : Connective) (other : Predicate) : Predicate :=
  match p with
  | .group c members top =>
    if c = connective then .group c (members ++ [other]) top else ofList connective [p, other]
  | _ => ofList connective [p, other]

/-- Both conditions hold. -/
def andAlso (p other : Predicate) : Predicate := p.extend .and other

/-- One of two conditions holds. -/
def orElse (p other : Predicate) : Predicate := p.extend .or other

/-- The neutral text of a predicate within another. -/
def render (p : Predicate) (exclude : Exclude) : Fragment := (p.doc exclude false).render

/-- The neutral text of a predicate as a whole clause body. -/
def renderTop (p : Predicate) (exclude : Exclude) : Fragment := (p.doc exclude true).render

/-- The number of direct members of a group. -/
def memberCount? : Predicate → Option Nat
  | .group _ members _ => some members.length
  | _ => none

end SqlCompose.Predicate
