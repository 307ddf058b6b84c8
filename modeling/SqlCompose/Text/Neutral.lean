/-!
# Neutral text

Text under construction does not know yet how its placeholders will be spelled. A lone question mark
stands for the next bound value, and a doubled one is a question mark of the text itself. Reading
goes from left to right and takes a pair first, so a run of three is a literal mark and then a slot.
All readers of neutral text share `marks`.
-/

namespace SqlCompose.Neutral

/-- One unit of neutral text. -/
inductive Mark where
  /-- A character of the text itself. -/
  | literal (c : Char)
  /-- The place of a bound value. -/
  | slot
  deriving DecidableEq, Repr

/-- The units of a neutral text, from left to right. -/
def marks : List Char → List Mark
  | [] => []
  | [c] => if c = '?' then [.slot] else [.literal c]
  | c :: d :: rest =>
    if c = '?' then
      if d = '?' then .literal '?' :: marks rest else .slot :: marks (d :: rest)
    else .literal c :: marks (d :: rest)

/-- The neutral spelling of one unit. -/
def Mark.chars : Mark → List Char
  | .literal c => if c = '?' then ['?', '?'] else [c]
  | .slot => ['?']

/-- The neutral characters of a literal text. -/
def escapeChars (s : List Char) : List Char := s.flatMap fun c => (Mark.literal c).chars

/-- The neutral spelling of a literal text: every question mark is doubled. -/
def escape (s : String) : String := String.ofList (escapeChars s.toList)

/-- The number of slots in a neutral text. -/
def slotCount (s : String) : Nat := (marks s.toList).count .slot

end SqlCompose.Neutral
