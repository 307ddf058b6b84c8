import SqlCompose.Exclude
import SqlCompose.Fragment

/-!
# Documents

A statement is laid out as a document before it becomes text. A document says what stands where and
what vanishes with what: a clause without content leaves no keyword behind, a list leaves out
members without text. `Doc.render` is the only place where a document turns into neutral text and
values.
-/

namespace SqlCompose

/-- A layout of SQL text in which parts may turn out empty. -/
inductive Doc where
  /-- Literal text. -/
  | text (s : String)
  /-- An operator, placed in the neutral text as it is written. -/
  | operator (s : String)
  /-- A bound value. -/
  | bind (v : Value)
  /-- All parts, one after another. -/
  | seq (parts : List Doc)
  /-- The parts that are not empty with a separator between them; two or more of them in parentheses
  if `group` is set. -/
  | joined (separator : String) (group : Bool) (parts : List Doc)
  /-- A part with what stands before and after it; nothing at all if the part is empty. -/
  | framed (before d after : Doc)
  /-- The second part in place of an empty first part. -/
  | orElse (d e : Doc)
  deriving Repr

namespace Doc

/-- Nothing. -/
def empty : Doc := .seq []

/-- A list with commas. -/
def list (parts : List Doc) : Doc := .joined ", " false parts

/-- Clauses with one space between them. -/
def clauses (parts : List Doc) : Doc := .joined " " false parts

/-- Literal text before and after, unless there is nothing between. -/
def enclosed (opening closing : String) (d : Doc) : Doc := .framed (.text opening) d (.text closing)

/-- The second part only after a first part that is not empty. -/
def follow (d e : Doc) : Doc := .framed empty d e

/-- The first part only before a second part that is not empty. -/
def lead (e d : Doc) : Doc := .framed e d empty

/-- A keyword before a clause's body. -/
def keyword (word : String) (d : Doc) : Doc := enclosed (word ++ " ") "" d

/-- Parentheses around a document. -/
def parens (d : Doc) : Doc := enclosed "(" ")" d

/-- `NULL` in place of nothing. -/
def orNull (d : Doc) : Doc := .orElse d (.text "NULL")

/-- A document under another name. -/
def named (d : Doc) : Option String → Doc
  | some name => follow d (.text (" AS " ++ name))
  | none => d

/-- A value if there is one. -/
def bound : Option Value → Doc
  | some v => .bind v
  | none => empty

/-- The parts that are not empty, joined; two or more in parentheses if `group` is set. -/
def joinParts (separator : String) (group : Bool) (parts : List Fragment) : Fragment :=
  match parts.filter (! ·.isEmpty) with
  | [] => .empty
  | [f] => f
  | fs =>
    let all := Fragment.join fs separator
    if group then all.parenthesized else all

mutual

/-- The neutral text of a document with its values. -/
def render : Doc → Fragment
  | .text s => .ident s
  | .operator s => .raw s
  | .bind v => .placeholder v
  | .seq parts => .concat (renderAll parts)
  | .joined separator group parts => joinParts separator group (renderAll parts)
  | .framed before d after =>
    let inner := d.render
    if inner.isEmpty then .empty else (before.render.append inner).append after.render
  | .orElse d e =>
    let first := d.render
    if first.isEmpty then e.render else first

/-- The fragments of several documents. -/
def renderAll : List Doc → List Fragment
  | [] => []
  | d :: rest => d.render :: renderAll rest
end

/-- The text of a document without its values. -/
def sql (d : Doc) : String := d.render.sql

end Doc

end SqlCompose
