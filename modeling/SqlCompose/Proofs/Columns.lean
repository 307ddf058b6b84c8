import SqlCompose.Proofs.Clauses
import SqlCompose.Proofs.Insertion
import SqlCompose.Proofs.Orders

/-!
# Columns as they are described

The rows of a statement have a column for every item of its select list or of what it returns. The
columns are described from the fields of the list and not from its text: also a field that is left
out of the list has a description, and an order to sort by is described though the list is written
without it.
-/

namespace SqlCompose

/-! ## Lists of fields as they are written -/

/-- An item of a list as it is written: an expression, and the name after `AS` if it has one. -/
structure ListItem where
  text : String
  label : Option String

def ListItem.sql : ListItem → String
  | ⟨text, some label⟩ => text ++ " AS " ++ Neutral.escape label
  | ⟨text, none⟩ => text

namespace Field

def hasText (f : Field) : Bool := !(f.expr.doc .none).vanishes

def item (f : Field) : ListItem := ⟨(f.expr.doc .none).sql, f.label⟩

theorem vanishes_projectionDoc (f : Field) : (f.projectionDoc .none).vanishes = !f.hasText := by
  cases f
  simp [Field.projectionDoc, hasText]

theorem sql_projectionDoc {f : Field} (h : f.hasText = true) :
    (f.projectionDoc .none).sql = f.item.sql := by
  obtain ⟨expr, type, label, order, nulls⟩ := f
  have hshown : (expr.doc .none).vanishes = false := by simpa [hasText] using h
  cases label with
  | none => rfl
  | some l => exact Place.sql_named hshown l

end Field

/-- The items of the list that is written for some fields. A field without text has none. -/
def listItems (fs : List Field) : List ListItem := (fs.filter Field.hasText).map Field.item

theorem sql_projections (fs : List Field) :
    (Doc.list (projectionDocs fs)).sql = ", ".intercalate ((listItems fs).map ListItem.sql) := by
  have hshown : Doc.shown (projectionDocs fs) =
      (fs.filter Field.hasText).map fun f => (f.projectionDoc .none).render := by
    rw [projectionDocs_eq, Doc.shown_map (fun f _ => f.vanishes_projectionDoc) fun _ _ _ => rfl]
    simp only [Bool.not_not]
  rw [Doc.sql, Doc.render_list, Fragment.listed, Fragment.sql_joined, hshown, listItems,
    List.map_map, List.map_map]
  refine congrArg _ (List.map_congr_left fun f hf => ?_)
  exact Field.sql_projectionDoc (List.mem_filter.mp hf).2

namespace Query

/-- The first of combined statements, at any depth. Any other statement is the only one. -/
def first : Query → Query
  | .setOperation ⟨head, _, _, _, _, _, _, _⟩ => head.first
  | q => q

/-- The fields that the columns of a statement's rows are made of. -/
def resultFields : Query → List Field
  | .select s => s.projections
  | .insert s => s.returning
  | .update s => s.returning
  | .delete s => s.returning
  | .setOperation _ => []

/-- What stands before the items of a statement's list. -/
def listHead : Query → String
  | .select s => "SELECT " ++ s.distinct.doc.sql
  | _ => "RETURNING "

theorem first_ne_setOperation : (q : Query) → ∀ s, q.first ≠ .setOperation s
  | .select _, _ => by simp [first]
  | .insert _, _ => by simp [first]
  | .update _, _ => by simp [first]
  | .delete _, _ => by simp [first]
  | .setOperation ⟨head, _, _, _, _, _, _, _⟩, s => by
      simpa [first] using head.first_ne_setOperation s

theorem columns_first : (q : Query) → q.first.columns = q.columns
  | .select _ => rfl
  | .insert _ => rfl
  | .update _ => rfl
  | .delete _ => rfl
  | .setOperation ⟨head, _, _, _, _, _, _, _⟩ => by
      rw [columns, first, head.columns_first]

theorem columns_eq (q : Query) : q.columns = resultColumns q.first.resultFields := by
  have hfirst := q.first_ne_setOperation
  rw [← q.columns_first]
  cases h : q.first with
  | setOperation s => exact absurd h (hfirst s)
  | _ => rfl

def Lists (q : Query) (head : String) (items : List ListItem) : Prop :=
  ∃ before clause after, q.doc = .clauses (before ++ clause :: after) ∧
    clause.sql = head ++ ", ".intercalate (items.map ListItem.sql)

theorem vanishes_projections {fs : List Field} (h : listItems fs ≠ []) :
    (Doc.list (projectionDocs fs)).vanishes = false := by
  obtain ⟨i, hi⟩ := List.exists_mem_of_ne_nil _ h
  obtain ⟨f, hf, -⟩ := List.mem_map.mp hi
  obtain ⟨hmem, htext⟩ := List.mem_filter.mp hf
  rw [Bool.eq_false_iff, Doc.vanishes_list, projectionDocs_eq, Ne, List.all_eq_true]
  intro hall
  have hnone := hall _ (List.mem_map_of_mem hmem)
  rw [f.vanishes_projectionDoc, htext] at hnone
  cases hnone

theorem sql_returning {fs : List Field} (h : listItems fs ≠ []) :
    (Doc.keyword "RETURNING" (.list (projectionDocs fs))).sql =
      "RETURNING " ++ ", ".intercalate ((listItems fs).map ListItem.sql) := by
  rw [← sql_projections, Doc.sql, Doc.keyword, Doc.render_enclosed (by decide) (by decide)
    (vanishes_projections h)]
  simp [Doc.sql]

theorem sql_selectList {fs : List Field} (h : listItems fs ≠ []) (distinct : Doc) :
    (Doc.seq [.text "SELECT ", distinct,
        .orElse (.list (projectionDocs fs)) (.text "*")]).sql =
      "SELECT " ++ distinct.sql ++ ", ".intercalate ((listItems fs).map ListItem.sql) := by
  have hwords : Neutral.escape "SELECT " = "SELECT " := Neutral.escape_eq_self (by decide)
  have hlist : (Doc.orElse (.list (projectionDocs fs)) (.text "*")).render =
      (Doc.list (projectionDocs fs)).render := by
    rw [Doc.render_orElse, vanishes_projections h, if_neg Bool.false_ne_true]
  rw [← sql_projections, Doc.sql, Doc.render_seq]
  simp [Doc.sql, hlist, hwords, String.append_assoc, -projectionDocs_eq]

theorem lists_items {q : Query} (hq : ∀ s, q ≠ .setOperation s)
    (h : listItems q.resultFields ≠ []) : q.Lists q.listHead (listItems q.resultFields) := by
  cases q with
  | select s =>
      cases s
      exact ⟨[_], _, _, by simp only [Query.doc, Select.doc]; rfl, sql_selectList h _⟩
  | insert s =>
      cases s
      exact ⟨[_, _, _, _], _, [], by simp only [Query.doc, Insert.doc]; rfl, sql_returning h⟩
  | update s =>
      cases s
      exact ⟨[_, _, _, _, _], _, [], by simp only [Query.doc, Update.doc]; rfl, sql_returning h⟩
  | delete s =>
      cases s
      exact ⟨[_, _, _, _], _, [], by simp only [Query.doc, Delete.doc]; rfl, sql_returning h⟩
  | setOperation s => exact absurd rfl (hq s)

end Query

/-! ## Descriptions -/

namespace Field

theorem sql_render_of_hasText {f : Field} (h : f.hasText = true) :
    (f.render .none).sql = f.item.text ++ orderingWords f.order f.nulls := by
  have hshown : (f.expr.doc .none).vanishes = false := by simpa [hasText] using h
  rw [render_of_not_vanishes hshown]
  rfl

theorem isEmpty_sql_render (f : Field) : (f.render .none).sql.isEmpty = !f.hasText := by
  obtain ⟨expr, type, label, order, nulls⟩ := f
  have hvanishes : (Doc.follow (expr.doc .none) (.text (orderingWords order nulls))).vanishes =
      (expr.doc .none).vanishes := Doc.vanishes_follow _ _
  rw [render, Field.doc, hasText, Bool.not_not, ← hvanishes]
  rfl

theorem sql_render_eq_iff {f : Field} (h : f.hasText = true) :
    (f.render .none).sql = f.item.text ↔ f.order = none ∧ f.nulls = none := by
  rw [sql_render_of_hasText h, ← orderingWords_eq_empty]
  simp

end Field

theorem sql_resultColumns (fs : List Field) :
    (resultColumns fs).map ResultColumn.sql = fs.map fun f => (f.render .none).sql := by
  rw [resultColumns, List.map_map]
  rfl

theorem filter_resultColumns (fs : List Field) :
    (resultColumns fs).filter (fun c => !c.sql.isEmpty) =
      (fs.filter Field.hasText).map fun f =>
        ⟨f.outputName, f.item.text ++ orderingWords f.order f.nulls, f.type⟩ := by
  rw [resultColumns, List.filter_map]
  have htext : (fun c : ResultColumn => !c.sql.isEmpty) ∘
      (fun f : Field => ⟨f.outputName, (f.render .none).sql, f.type⟩) = Field.hasText := by
    funext f
    rw [Function.comp_apply, f.isEmpty_sql_render, Bool.not_not]
  rw [htext]
  refine List.map_congr_left fun f hf => ?_
  rw [Field.sql_render_of_hasText (List.mem_filter.mp hf).2]

theorem described_as_listed_iff (fs : List Field) :
    (resultColumns fs).map ResultColumn.sql = (listItems fs).map ListItem.text ↔
      ∀ f ∈ fs, f.hasText = true ∧ f.order = none ∧ f.nulls = none := by
  rw [sql_resultColumns, listItems, List.map_map]
  constructor
  · intro heq
    have hlength := congrArg List.length heq
    rw [List.length_map, List.length_map] at hlength
    have htext := List.length_filter_eq_length_iff.mp hlength.symm
    rw [List.filter_eq_self.mpr htext, List.map_inj_left] at heq
    exact fun f hf => ⟨htext f hf, (Field.sql_render_eq_iff (htext f hf)).mp (heq f hf)⟩
  · intro h
    rw [List.filter_eq_self.mpr fun f hf => (h f hf).1]
    exact List.map_congr_left fun f hf => (Field.sql_render_eq_iff (h f hf).1).mpr (h f hf).2

/-- The columns of a statement are those of the fields of its list; combined statements have the
columns of the first of them. A column is described by the item of its field and the words of the
order that the field carries, and by no text if the list has no such item. The descriptions are the
items of the list, position by position, exactly if every field of the list has text and none
carries an order. -/
theorem Query.columns_listed_iff (q : Query) :
    (∀ s, q.first ≠ .setOperation s) ∧ q.columns = q.first.columns ∧
    (listItems q.first.resultFields ≠ [] →
      q.first.Lists q.first.listHead (listItems q.first.resultFields)) ∧
    (q.columns.filter fun c => !c.sql.isEmpty) =
      (q.first.resultFields.filter Field.hasText).map (fun f =>
        ⟨f.outputName, f.item.text ++ orderingWords f.order f.nulls, f.type⟩) ∧
    (q.columns.map ResultColumn.sql = (listItems q.first.resultFields).map ListItem.text ↔
      ∀ f ∈ q.first.resultFields, f.hasText = true ∧ f.order = none ∧ f.nulls = none) := by
  refine ⟨q.first_ne_setOperation, q.columns_first.symm, lists_items q.first_ne_setOperation, ?_,
    ?_⟩
  · rw [columns_eq]
    exact filter_resultColumns _
  · rw [columns_eq]
    exact described_as_listed_iff _

/-- A selection of a field by which it is also sorted, and of a template that comes to nothing. -/
def newestFirst : Query :=
  .select ((Select.new.run .empty).1.columns
    [(Field.column "a" .number).desc, .custom "ANY(?)" [.list []], .column "b" .number])

/-- Two items are listed and three columns are described, one of them with an order. -/
theorem columns_not_as_listed :
    newestFirst.body.sql = "SELECT a, b" ∧
    (listItems newestFirst.first.resultFields).map ListItem.text = ["a", "b"] ∧
    newestFirst.columns.map ResultColumn.sql = ["a DESC", "", "b"] := by
  refine ⟨by rfl, by rfl, by rfl⟩

end SqlCompose
