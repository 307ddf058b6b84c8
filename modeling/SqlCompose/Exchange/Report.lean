import SqlCompose.Exchange.Value
import SqlCompose.Interpolation
import SqlCompose.Predicate
import SqlCompose.Query

/-!
# Reports on statements

What there is to say about a part of a statement, as JSON data.
-/

namespace SqlCompose

/-- Several values. -/
def Value.listReport (vs : List Value) : Json := .array (vs.map Value.toJson)

/-- The parts of a fragment's report. -/
def Fragment.reportMembers (f : Fragment) : List (String × Json) :=
  [("sql", .string f.sql), ("args", Value.listReport f.args), ("count", .ofNat f.slotCount)]

/-- A fragment: its text, its values and the number of its slots. -/
def Fragment.report (f : Fragment) : Json := .object f.reportMembers

/-- The parts of a built statement's report. -/
def Built.reportMembers (b : Built) : List (String × Json) :=
  [("sql", .string b.sql), ("args", Value.listReport b.args), ("debug", .string b.interpolated),
    ("dialect", .string b.dialect.name)]

/-- The name of a direction. -/
def SortOrder.name : SortOrder → String
  | .asc => "Asc"
  | .desc => "Desc"

/-- The name of a place of nulls. -/
def NullsOrder.name : NullsOrder → String
  | .first => "First"
  | .last => "Last"

/-- The name of what a field is. -/
def Expr.kindName : Expr → String
  | .literal _ => "Literal"
  | .column _ _ => "Column"
  | .computed _ _ => "Computed"
  | .null => "Null"

/-- A field: its text as an operand and in a projection, and its parts. -/
def Field.report (f : Field) (e : Exclude) : Json :=
  .object [
    ("render", (f.render e).report),
    ("projection", .string (f.renderProjection e).sql),
    ("name", .string f.name),
    ("output_name", .string f.outputName),
    ("alias", .ofOption .string f.label),
    ("qualifier", .ofOption .string f.qualifier),
    ("type", .string f.type.name),
    ("order", .ofOption (fun o => .string o.name) f.order),
    ("nulls", .ofOption (fun n => .string n.name) f.nulls),
    ("kind", .string f.expr.kindName)]

/-- A predicate: its text within another and as a whole body, and the size of a group. -/
def Predicate.report (p : Predicate) (e : Exclude) : Json :=
  .object [
    ("render", (p.render e).report),
    ("top", .string (p.renderTop e).sql),
    ("children", .ofOption .ofNat p.memberCount?)]

/-- The parts of a table's report. -/
def TableSource.reportMembers (t : TableSource) : List (String × Json) :=
  [("table", t.render.report),
    ("source", .string t.renderSource.sql),
    ("alias", .ofOption .string t.label),
    ("name", .string t.name),
    ("qualifier", .string t.qualifier)]

/-- A table: its text with and without its label, and its names. -/
def TableSource.report (t : TableSource) : Json := .object t.reportMembers

/-- A column of a statement's rows. -/
def ResultColumn.report (c : ResultColumn) : Json :=
  .object [("name", .string c.name), ("sql", .string c.sql), ("type", .string c.type.name),
    ("text", .string c.text)]

/-- The size of a projection. -/
def Query.projectionMembers : Query → List (String × Json)
  | .select s => [("projections", .ofNat s.projections.length)]
  | _ => []

/-- A statement: what it is built to, what it stands for as a table, and the columns of its rows. -/
def Query.report (q : Query) : Json :=
  let t := TableSource.query q
  .object <| q.build.reportMembers ++ [
    ("unfiltered", .bool q.changesEveryRow),
    ("body", q.body.report),
    ("render_query", .string q.render.sql),
    ("nested", .bool q.nested),
    ("columns", .array (q.columns.map ResultColumn.report)),
    ("alias", .ofOption .string t.label),
    ("name", .string t.name),
    ("qualifier", .string t.qualifier),
    ("table", .string t.render.sql),
    ("source", .string t.renderSource.sql)] ++ q.projectionMembers

end SqlCompose
