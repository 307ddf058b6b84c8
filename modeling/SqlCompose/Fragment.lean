import SqlCompose.Text.Neutral
import SqlCompose.Value.Basic

/-!
# Fragments

A fragment is a piece of neutral SQL text with the values bound to its slots, in the order of the
text. A fragment without text stands for nothing, and those who combine fragments leave it out.
-/

namespace SqlCompose

/-- Neutral text and the values bound to its slots. -/
structure Fragment where
  sql : String
  args : List Value
  deriving Repr

namespace Fragment

/-- No text and no values. -/
def empty : Fragment := ⟨"", []⟩

/-- Neutral text without values. -/
def raw (sql : String) : Fragment := ⟨sql, []⟩

/-- A single slot with its value. -/
def placeholder (v : Value) : Fragment := ⟨"?", [v]⟩

/-- Whether a fragment has no text. -/
def isEmpty (f : Fragment) : Bool := f.sql.isEmpty

/-- Adds neutral text. -/
def pushText (f : Fragment) (s : String) : Fragment := { f with sql := f.sql ++ s }

/-- Adds literal text, such as a name, character by character; a question mark is written twice. -/
def pushIdent (f : Fragment) (s : String) : Fragment :=
  { f with sql := s.toList.foldl (fun sql c => (if c = '?' then sql.push '?' else sql).push c) f.sql }

/-- A name. -/
def ident (s : String) : Fragment := empty.pushIdent s

/-- One fragment after another. -/
def append (f g : Fragment) : Fragment := ⟨f.sql ++ g.sql, f.args ++ g.args⟩

/-- All fragments, one after another. -/
def concat (fs : List Fragment) : Fragment := fs.foldl append empty

/-- Parentheses around a fragment, unless it is empty. -/
def parenthesized (f : Fragment) : Fragment :=
  if f.isEmpty then f else { f with sql := "(" ++ f.sql ++ ")" }

/-- The number of slots in the text. -/
def slotCount (f : Fragment) : Nat := Neutral.slotCount f.sql

/-- The fragments that are not empty, with a separator between them. -/
def join (fs : List Fragment) (separator : String) : Fragment :=
  fs.foldl
    (fun out f =>
      if f.isEmpty then out
      else if out.isEmpty then out.append f
      else (out.pushText separator).append f)
    empty

/-- Equality of text and values. -/
def same (f g : Fragment) : Bool := f.sql == g.sql && Value.sameList f.args g.args

end Fragment

end SqlCompose
