import SqlCompose.Field

/-!
# Statements as a whole

What can be asked of any statement: its neutral body, its text in a dialect, the columns of its
rows, and whether it would change every row of a table.
-/

namespace SqlCompose

/-- A column of a statement's rows: its name, empty for an expression without one, the SQL text it
was written as, and its declared type. -/
structure ResultColumn where
  name : String
  sql : String
  type : FieldType
  deriving DecidableEq, Repr

/-- A column as messages show it. -/
def ResultColumn.text (c : ResultColumn) : String :=
  (if c.name.isEmpty then "?column?" else c.name) ++
    " = \x60" ++ c.sql ++ "\x60 (" ++ c.type.name ++ ")"

/-- The columns of a projection. -/
def resultColumns (fields : List Field) : List ResultColumn :=
  fields.map fun f => ⟨f.outputName, (f.render .none).sql, f.type⟩

/-- The condition of a `WHERE` clause. -/
def filterDoc (filters : List Predicate) : Doc := groupDoc .none .and true filters

/-- Whether filters leave no condition. -/
def unfiltered (filters : List Predicate) : Bool := (filterDoc filters).render.isEmpty

namespace TableSource

/-- The neutral text of a table without its label. -/
def render (t : TableSource) : Fragment := t.doc.render

/-- The neutral text of a table under its label. -/
def renderSource (t : TableSource) : Fragment := (t.doc.named t.label).render

end TableSource

namespace Query

/-- The neutral text of a statement, without parentheses. -/
def body (q : Query) : Fragment := q.doc.render

/-- Whether a statement is marked as part of another. -/
def nested : Query → Bool
  | .select s => s.nested
  | .insert s => s.nested
  | .update s => s.nested
  | .delete s => s.nested
  | .setOperation s => s.nested

/-- Marks a statement as part of another. -/
def asNested : Query → Query
  | .select s => .select { s with nested := true }
  | .insert s => .insert { s with nested := true }
  | .update s => .update { s with nested := true }
  | .delete s => .delete { s with nested := true }
  | .setOperation s => .setOperation { s with nested := true }

/-- The dialect of a statement that is executed. -/
def dialect : Query → Dialect
  | .select s => s.dialect
  | .insert s => s.dialect
  | .update s => s.dialect
  | .delete s => s.dialect
  | .setOperation s => s.dialect

/-- The statement in its dialect, ready for execution. -/
def build (q : Query) : Built := q.dialect.renumber q.body

/-- The statement as it stands: neutral if it is part of another, in its dialect otherwise. -/
def render (q : Query) : Fragment :=
  if q.nested then q.body else ⟨q.build.sql, q.build.args⟩

/-- Whether a statement would update or delete every row of its target. -/
def changesEveryRow : Query → Bool
  | .update s => unfiltered s.filters
  | .delete s => unfiltered s.filters
  | _ => false

/-- The columns of a statement's rows; those of combined statements are those of the first. -/
def columns : Query → List ResultColumn
  | .select s => resultColumns s.projections
  | .insert s => resultColumns s.returning
  | .update s => resultColumns s.returning
  | .delete s => resultColumns s.returning
  | .setOperation ⟨head, _, _, _, _, _, _, _⟩ => head.columns

end Query

/-- A column of a `SELECT` used as a table, typed by the first projection of that name. -/
def Select.get (s : Select) (name : String) : Field :=
  .qualified (s.label.getD "") name
    (((s.projections.find? fun f => f.outputName == name).map Field.type).getD .custom)

/-- A column of combined statements used as a table, typed by the first of them if it is a
`SELECT`. -/
def SetOperation.get (s : SetOperation) (name : String) : Field :=
  .qualified (s.label.getD "") name
    (match s.head with
      | .select first => (first.get name).type
      | _ => .custom)

end SqlCompose
