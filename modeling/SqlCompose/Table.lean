import SqlCompose.Doc
import SqlCompose.Tree

/-!
# Tables

The names of the nodes that stand for tables. A node is known to the columns that refer to it by its
qualifier: its label if it has one, and its name otherwise.
-/

namespace SqlCompose

/-- A text, unless it is empty. -/
def nonempty? (s : String) : Option String := if s.isEmpty then none else some s

namespace BaseTable

/-- A table in a schema, without columns. -/
def ofSchema (schema name : String) : BaseTable := ⟨schema, name, none, []⟩

/-- A table in the default schema, without columns. -/
def ofName (name : String) : BaseTable := ofSchema "" name

/-- Refers to a table by a label; the empty label removes it. -/
def labelled (t : BaseTable) (label : String) : BaseTable := { t with label := nonempty? label }

/-- Declares one more column. -/
def addColumn (t : BaseTable) (name : String) (type : FieldType) : BaseTable :=
  { t with columns := t.columns ++ [(name, type)] }

/-- Whether the schema need not be written. -/
def inDefaultSchema (t : BaseTable) : Bool := t.schema.isEmpty || t.schema == "public"

/-- The table's own name in a statement. -/
def doc (t : BaseTable) : Doc :=
  if t.inDefaultSchema then .text t.name else .seq [.text t.schema, .text ".", .text t.name]

/-- What stands before the table's columns. -/
def qualifier (t : BaseTable) : String := t.label.getD t.name

/-- The table as a source, under its label. -/
def sourceDoc (t : BaseTable) : Doc := t.doc.named t.label

end BaseTable

/-- The label of a table expression; the empty one counts as none. -/
def CustomTable.visibleLabel (t : CustomTable) : Option String :=
  match t.label with
  | some l => nonempty? l
  | none => none

/-- The label of a statement. -/
def Query.label : Query → Option String
  | .select s => s.label
  | .insert s => s.label
  | .update s => s.label
  | .delete s => s.label
  | .setOperation s => s.label

/-- Names a statement. -/
def Query.labelled (label : String) : Query → Query
  | .select s => .select { s with label := some label }
  | .insert s => .insert { s with label := some label }
  | .update s => .update { s with label := some label }
  | .delete s => .delete { s with label := some label }
  | .setOperation s => .setOperation { s with label := some label }

/-- The name of a statement as a table. -/
def Query.name (q : Query) : String := q.label.getD ""

namespace TableSource

/-- The label of a table. -/
def label : TableSource → Option String
  | .base t => t.label
  | .cte _ => none
  | .reference c => some c.label
  | .query q => q.label
  | .custom t => t.visibleLabel

/-- The name of a table. -/
def name : TableSource → String
  | .base t => t.name
  | .cte c => c.name
  | .reference c => c.name
  | .query q => q.name
  | .custom t => t.label.getD ""

/-- What stands before the table's columns. -/
def qualifier (t : TableSource) : String := t.label.getD t.name

/-- Whether a table is a statement. -/
def isQuery : TableSource → Bool
  | .query _ => true
  | _ => false

/-- Names a statement that has no label; other tables stay as they are. -/
def ensureLabel (namer : NamerId) (t : TableSource) : StateM Naming TableSource :=
  match t with
  | .query q =>
    match q.label with
    | none => do
      let name ← Naming.draw namer
      return .query (q.labelled name)
    | some _ => return t
  | _ => return t

end TableSource

end SqlCompose
