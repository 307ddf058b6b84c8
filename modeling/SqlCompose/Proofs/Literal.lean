import SqlCompose.Cte
import SqlCompose.Function
import SqlCompose.Update
import SqlCompose.Proofs.Emptiness
import SqlCompose.Proofs.Numbering

/-!
# Literal text

Names and raw SQL are written with their question marks doubled. Such a text is transparent: no
reader of neutral text finds a slot in it, templates leave it as it is, and a dialect writes the
text itself and numbers the slots around it as if it were not there. Every place that takes a name
or raw SQL writes it so.
-/

namespace SqlCompose

namespace Fragment

@[simp] theorem ident_empty : ident "" = empty := rfl

theorem ident_append (s t : String) : ident (s ++ t) = (ident s).append (ident t) := by
  apply ext <;> simp [Neutral.escape_append]

end Fragment

/-! ## In templates -/

namespace Template

/-- A literal text as a row of parts. -/
def texts (s : String) : List Doc := s.toList.map fun c => .text c.toString

theorem fill_append (a b : List Neutral.Mark) (args : List (Option Doc)) :
    fill (a ++ b) args = (fill a args).bind fun l =>
      (fill b (args.drop (a.count .slot))).map fun r => l ++ r := by
  induction a generalizing args with
  | nil => simp [fill]
  | cons m a ih =>
      cases m with
      | literal c => simp [fill, ih, Option.map_bind, Option.bind_map, Function.comp_def]
      | slot =>
          cases args with
          | nil => simp [fill, ih, Option.map_bind, Option.bind_map, Function.comp_def]
          | cons o args =>
              cases o with
              | none => simp [fill]
              | some d => simp [fill, ih, Option.map_bind, Option.bind_map, Function.comp_def]

theorem fill_literals (s : List Char) (args : List (Option Doc)) :
    fill (Neutral.literals s) args = some (s.map fun c => .text c.toString) := by
  induction s with
  | nil => rfl
  | cons c s ih =>
      have hc : Neutral.literals (c :: s) = .literal c :: Neutral.literals s := rfl
      rw [hc, fill, ih]
      rfl

/-- Literal text takes no argument of a template. -/
theorem fill_around_literal {before : String} (h : ¬ Neutral.EndsInSlot before) (s after : String)
    (args : List (Option Doc)) :
    fill (Neutral.marks (before ++ Neutral.escape s ++ after).toList) args =
      (fill (Neutral.marks before.toList) args).bind fun l =>
        (fill (Neutral.marks after.toList) (args.drop (Neutral.slotCount before))).map fun r =>
          l ++ texts s ++ r := by
  rw [String.toList_append, Neutral.marks_append (Neutral.not_endsInSlot_append_escape h s),
    String.toList_append, Neutral.marks_append h, Neutral.marks_escape, List.append_assoc,
    fill_append, fill_append]
  simp [fill_literals, texts, Neutral.slotCount, Function.comp_def]

theorem concat_texts (s : String) : Fragment.concat ((texts s).map Doc.render) = .ident s := by
  have step (cs : List Char) :
      Fragment.concat ((cs.map fun c => Doc.text c.toString).map Doc.render) =
        .ident (String.ofList cs) := by
    induction cs with
    | nil => rfl
    | cons c cs ih =>
        rw [List.map_cons, List.map_cons, Fragment.concat_cons, ih, Doc.render_text,
          ← Fragment.ident_append]
        congr 1
        rw [← String.toList_inj]
        simp
  rw [texts, step, String.ofList_toList]

/-- A template around a literal text is written around that text. -/
theorem render_around_literal {before : String} (h : ¬ Neutral.EndsInSlot before) (after : String)
    (args : List (Option Doc)) {l r : List Doc}
    (hl : fill (Neutral.marks before.toList) args = some l)
    (hr : fill (Neutral.marks after.toList) (args.drop (Neutral.slotCount before)) = some r)
    (s : String) :
    (doc (before ++ Neutral.escape s ++ after) args).render =
      (Fragment.concat (l.map Doc.render)).append
        ((Fragment.ident s).append (.concat (r.map Doc.render))) := by
  rw [doc, fill_around_literal h, hl, hr]
  simp [concat_texts]

/-- A template without slots is written as it is, whatever its arguments. -/
theorem render_escape (s : String) (args : List (Option Doc)) :
    (doc (Neutral.escape s) args).render = .ident s := by
  have h := render_around_literal Neutral.not_endsInSlot_empty "" args rfl rfl s
  simpa using h

/-- A template with one slot, and text around it. -/
theorem render_one_slot {template before after : String}
    (h : ∀ d : Doc, fill (Neutral.marks template.toList) [some d] =
      some (texts before ++ d :: texts after)) (d : Doc) :
    (doc template [some d]).render =
      (Fragment.ident before).append (d.render.append (.ident after)) := by
  rw [doc, h, Doc.render_seq]
  simp only [List.map_append, List.map_cons, Fragment.concat_append, Fragment.concat_cons,
    concat_texts]

theorem render_two_slots {template before between after : String}
    (h : ∀ d d' : Doc, fill (Neutral.marks template.toList) [some d, some d'] =
      some (texts before ++ d :: (texts between ++ d' :: texts after))) (d d' : Doc) :
    (doc template [some d, some d']).render =
      (Fragment.ident before).append (d.render.append
        ((Fragment.ident between).append (d'.render.append (.ident after)))) := by
  rw [doc, h, Doc.render_seq]
  simp only [List.map_append, List.map_cons, Fragment.concat_append, Fragment.concat_cons,
    concat_texts]

/-- A slot for each of several documents, with commas between them, before a parenthesis. -/
theorem fill_listed (ds : List Doc) : ∃ parts,
    fill (Neutral.marks (", ".intercalate (ds.map fun _ => "?") ++ ")").toList) (ds.map some) =
      some parts ∧
    Fragment.concat (parts.map Doc.render) =
      (Fragment.concat ((ds.map Doc.render).intersperse (.ident ", "))).append (.ident ")") := by
  induction ds with
  | nil => exact ⟨texts ")", rfl, concat_texts ")"⟩
  | cons d ds ih =>
      cases ds with
      | nil =>
          refine ⟨d :: texts ")", ?_, ?_⟩
          · rw [List.map_singleton, List.map_singleton, String.intercalate_singleton]
            rfl
          · simp [concat_texts]
      | cons d' ds =>
          obtain ⟨parts, hfill, hparts⟩ := ih
          have hmarks (t : String) : Neutral.marks ("?" ++ (", " ++ t)).toList =
              .slot :: .literal ',' :: .literal ' ' :: Neutral.marks t.toList := by
            rw [String.toList_append, String.toList_append]
            show Neutral.marks ('?' :: ',' :: ' ' :: t.toList) = _
            rw [Neutral.marks_slot (by simp), Neutral.marks_of_ne (by decide),
              Neutral.marks_of_ne (by decide)]
          have htext : ", ".intercalate ((d :: d' :: ds).map fun _ => "?") ++ ")" =
              "?" ++ (", " ++ (", ".intercalate ((d' :: ds).map fun _ => "?") ++ ")")) := by
            simp only [List.map_cons, String.intercalate_cons_cons, String.append_assoc]
          refine ⟨d :: (texts ", " ++ parts), ?_, ?_⟩
          · have hargs : (d :: d' :: ds).map some = some d :: (d' :: ds).map some := rfl
            rw [htext, hmarks, hargs, fill, fill, fill, hfill]
            rfl
          · rw [List.map_cons, List.map_append, Fragment.concat_cons, Fragment.concat_append,
              concat_texts, hparts]
            simp [Fragment.append_assoc]

end Template

namespace Field

theorem not_endsInSlot_collate : ¬ Neutral.EndsInSlot "? COLLATE \"" :=
  Neutral.not_endsInSlot_append (u := "\"") (by decide) (by decide) "? COLLATE "

theorem not_endsInSlot_cast : ¬ Neutral.EndsInSlot "CAST(? AS " :=
  Neutral.not_endsInSlot_append (u := " ") (by decide) (by decide) "CAST(? AS"

end Field

/-! ## In dialects -/

namespace Dialect

theorem renumber_append {before : String} (h : ¬ Neutral.EndsInSlot before) (d : Dialect)
    (after : String) (args : List Value) :
    d.renumber ⟨before ++ after, args⟩ =
      ⟨(d.renumber ⟨before, args⟩).sql ++
        String.ofList (d.spell (Neutral.slotCount before) (Neutral.marks after.toList)),
        args, d⟩ := by
  simp [renumber, Neutral.marks_append h, spell_append, Neutral.slotCount]

/-- A literal text stands in the text of a dialect as it is. -/
theorem renumber_around_literal {before : String} (h : ¬ Neutral.EndsInSlot before) (d : Dialect)
    (s after : String) (args : List Value) :
    d.renumber ⟨before ++ Neutral.escape s ++ after, args⟩ =
      ⟨(d.renumber ⟨before, args⟩).sql ++ s ++
        String.ofList (d.spell (Neutral.slotCount before) (Neutral.marks after.toList)),
        args, d⟩ := by
  rw [renumber_append (Neutral.not_endsInSlot_append_escape h s), renumber_append h]
  simp [Neutral.marks_append h, Neutral.marks_escape, spell_literals, Neutral.slotCount,
    -Neutral.toList_escape]

/-- Between literal texts a fragment is numbered as if it stood alone. -/
theorem renumber_between (d : Dialect) (o : String) (f : Fragment) {c : String}
    (hc : c.toList.head? ≠ some '?') :
    d.renumber ((Fragment.ident o).append (f.append (.ident c))) =
      ⟨o ++ (d.renumber f).sql ++ c, f.args, d⟩ := by
  have hjoined : (Fragment.ident o).append (f.append (.ident c)) =
      ⟨"" ++ Neutral.escape o ++ (f.sql ++ Neutral.escape c), f.args⟩ :=
    Fragment.ext (by simp) (by simp)
  have hhead : (Neutral.escape c).toList.head? ≠ some '?' := by
    rw [Neutral.toList_escape]
    exact Neutral.head?_chars_ne (Neutral.quiet_literals hc)
  have hspell : String.ofList
      (d.spell (Neutral.slotCount "") (Neutral.marks (f.sql ++ Neutral.escape c).toList)) =
        (d.renumber f).sql ++ c := by
    rw [String.toList_append, Neutral.marks_append_of_head f.sql hhead, Neutral.marks_escape,
      spell_append, spell_literals, String.ofList_append, String.ofList_toList]
    rfl
  have hempty : (d.renumber ⟨"", f.args⟩).sql = "" := rfl
  rw [hjoined, renumber_around_literal Neutral.not_endsInSlot_empty, hspell, hempty,
    String.empty_append, String.append_assoc]

/-- Three question marks of a name stay three, and take no number. -/
example (v w : Value) :
    (Dialect.postgres.renumber ⟨"? < " ++ Neutral.escape "???" ++ " + ?", [v, w]⟩).sql =
      "$1 < ??? + $2" := by cbv

end Dialect

/-! ## Places for names and raw SQL -/

/-- A place in a statement tree that takes a name or raw SQL, with what surrounds it there. -/
inductive Place where
  | column (qualifier : Option String) (type : FieldType) (exclude : Exclude)
  | columnQualifier (name : String) (type : FieldType) (exclude : Exclude)
  | table (inSchema : String)
  | schema (ofTable : String)
  | tableLabel (t : BaseTable)
  | queryLabel (q : Query)
  | expressionLabel (t : CustomTable)
  | referenceLabel (name : String)
  | fieldLabel (f : Field) (exclude : Exclude)
  /-- The name of a common table expression, where it is defined. -/
  | cte (columns : List String) (query : Query) (recursive : Bool) (materialized : Option Bool)
  | cteColumn (name : String) (before after : List String) (query : Query) (recursive : Bool)
    (materialized : Option Bool)
  /-- The name of a common table expression, where it is used. -/
  | cteUse (columns : List String) (query : Query) (recursive : Bool) (materialized : Option Bool)
  | cteReference (label : String)
  | lockTable (strength : LockStrength) (before after : List String) (w : LockWait)
  | constraint (filters : List Predicate) (target : Exclude)
  | collation (f : Field) (exclude : Exclude)
  | sqlType (f : Field) (type : FieldType) (exclude : Exclude)
  | function (type : FieldType) (args : List Field) (exclude : Exclude)
  | rawField (exclude : Exclude)
  | rawPredicate (exclude : Exclude) (whole : Bool)
  | rawAssignment (assigned : Field) (target : Exclude)

namespace Place

/-- What is written at a place for a text. -/
def write (s : String) : Place → Fragment
  | .column qualifier type e => (Field.ofExpr (.column qualifier s) type).render e
  | .columnQualifier name type e => (Field.qualified s name type).render e
  | .table inSchema => (TableSource.base (.ofSchema inSchema s)).render
  | .schema ofTable => (TableSource.base (.ofSchema s ofTable)).render
  | .tableLabel t => (TableSource.base (t.labelled s)).renderSource
  | .queryLabel q => (TableSource.query (q.labelled s)).renderSource
  | .expressionLabel t => (TableSource.custom { t with label := some s }).renderSource
  | .referenceLabel name => (TableSource.reference ⟨name, s⟩).renderSource
  | .fieldLabel f e => (f.labelled s).renderProjection e
  | .cte columns query recursive materialized =>
    (Cte.mk s columns query recursive materialized).doc.render
  | .cteColumn name before after query recursive materialized =>
    (Cte.mk name (before ++ s :: after) query recursive materialized).doc.render
  | .cteUse columns query recursive materialized =>
    (TableSource.cte ⟨s, columns, query, recursive, materialized⟩).render
  | .cteReference label => (TableSource.reference ⟨s, label⟩).render
  | .lockTable strength before after w => (Lock.mk strength (before ++ s :: after) w).doc.render
  | .constraint filters target => ((ConflictTarget.constraint s filters).doc target).render
  | .collation f e => (f.collate s).render e
  | .sqlType f type e => (f.cast s type).render e
  | .function type args e => (Function.call s type args).render e
  | .rawField e => (Field.raw s).render e
  | .rawPredicate e whole => ((Predicate.raw s).doc e whole).render
  | .rawAssignment assigned target => ((Assignment.mk assigned (.raw s)).doc target).render

/-- Whether a text is shown at a place. Empty labels and the default schema are not, nor is anything
that belongs to an empty table, field or assignment. -/
def Shows (s : String) : Place → Prop
  | .columnQualifier _ _ e => s ≠ "" ∧ e.contains s = false
  | .schema _ => s ≠ "" ∧ s ≠ "public"
  | .tableLabel t => s ≠ "" ∧ t.doc.vanishes = false
  | .expressionLabel t => s ≠ "" ∧ t.doc.vanishes = false
  | .referenceLabel name => name ≠ ""
  | .fieldLabel f e => (f.expr.doc e).vanishes = false
  | .rawAssignment _ _ => s ≠ ""
  | _ => True

/-- A text stands literally between two fragments, the first of which does not end in a slot. -/
def Literally (write : String → Fragment) (shows : String → Prop) : Prop :=
  ∃ before after : Fragment, ¬ Neutral.EndsInSlot before.sql ∧
    ∀ s, shows s → write s = before.append ((Fragment.ident s).append after)

variable {write : String → Fragment} {shows : String → Prop}

/-- A name in the middle of literal text. -/
theorem literally_of_ident (before after : String) (rest : Fragment)
    (h : ∀ s, shows s → write s = (Fragment.ident (before ++ s ++ after)).append rest) :
    Literally write shows := by
  refine ⟨.ident before, (Fragment.ident after).append rest, ?_, fun s hs => ?_⟩
  · simpa using Neutral.not_endsInSlot_escape before
  · rw [h s hs, Fragment.ident_append, Fragment.ident_append]
    simp only [Fragment.append_assoc]

theorem exists_intercalate (separator : String) (before after : List String) :
    ∃ l r, ∀ s, separator.intercalate (before ++ s :: after) = l ++ s ++ r := by
  have hafter : ∃ r, ∀ s, separator.intercalate (s :: after) = s ++ r := by
    cases after with
    | nil => exact ⟨"", fun s => by simp⟩
    | cons t after => exact ⟨_, fun s => by rw [String.intercalate_cons_cons, String.append_assoc]⟩
  obtain ⟨r, hr⟩ := hafter
  cases before with
  | nil => exact ⟨"", r, fun s => by simp [hr]⟩
  | cons t before =>
      refine ⟨separator.intercalate (t :: before) ++ separator, r, fun s => ?_⟩
      rw [String.intercalate_append_of_ne_nil (by simp) (by simp), hr, ← String.append_assoc]

/-- A name after a fragment and some literal text. -/
theorem literally_after (f rest : Fragment) {a : String} (ha : a ≠ "") (hq : '?' ∉ a.toList)
    (h : ∀ s, shows s → write s = f.append ((Fragment.ident (a ++ s)).append rest)) :
    Literally write shows := by
  refine ⟨f.append (.ident a), rest, ?_, fun s hs => ?_⟩
  · rw [Fragment.sql_append, Fragment.sql_ident, Neutral.escape_eq_self hq]
    exact Neutral.not_endsInSlot_append ha hq _
  · rw [h s hs, Fragment.ident_append]
    simp only [Fragment.append_assoc]

theorem render_named {d : Doc} (h : d.vanishes = false) (s : String) :
    (d.named (some s)).render = d.render.append ((Fragment.ident (" AS " ++ s)).append .empty) := by
  rw [Doc.named, Doc.follow, Doc.render_framed h]
  simp [Doc.empty]

theorem sql_named {d : Doc} (h : d.vanishes = false) (s : String) :
    (d.named (some s)).sql = d.sql ++ " AS " ++ Neutral.escape s := by
  have hwords : Neutral.escape " AS " = " AS " := Neutral.escape_eq_self (by decide)
  rw [Doc.sql, render_named h, Fragment.append_empty, Fragment.sql_append, Fragment.sql_ident,
    Neutral.escape_append, hwords, ← String.append_assoc]
  rfl

/-- A label after what it names. -/
theorem literally_label (d : Doc)
    (h : ∀ s, shows s → d.vanishes = false ∧ write s = (d.named (some s)).render) :
    Literally write shows := by
  refine literally_after d.render .empty (a := " AS ") (by decide) (by decide) fun s hs => ?_
  rw [(h s hs).2, render_named (h s hs).1]

/-- A field without an order is written as its expression. -/
theorem render_ofExpr (expr : Expr) (type : FieldType) (e : Exclude) :
    (Field.ofExpr expr type).render e = (expr.doc e).render := by
  have hwords : orderingWords none none = "" := rfl
  simp only [Field.render, Field.ofExpr, Field.doc, hwords, Doc.follow]
  cases h : (expr.doc e).vanishes with
  | true => rw [Doc.render_eq_empty_of_framed h, Doc.render_eq_empty _ h]
  | false =>
      rw [Doc.render_framed h]
      simp [Doc.empty]

theorem render_raw (s : String) (e : Exclude) : (Field.raw s).render e = .ident s := by
  rw [Field.raw, Field.custom, Field.computed, render_ofExpr, Expr.doc, Template.render_escape]

theorem render_cte (cte : Cte) :
    cte.doc.render = (Fragment.ident (cteHead cte.name cte.columns cte.materialized ++ "(")).append
      (cte.query.doc.render.append (.ident ")")) := by
  cases cte
  simp only [Cte.doc, Doc.enclosed, Doc.render_framed (Query.doc_not_vanishes _), Doc.render_text]

theorem render_collate (f : Field) (s : String) (e : Exclude) :
    (f.collate s).render e =
      (f.doc e).render.append ((Fragment.ident (" COLLATE \"" ++ s)).append (.ident "\"")) := by
  have h := Template.render_around_literal Field.not_endsInSlot_collate "\"" [some (f.doc e)]
    (l := f.doc e :: Template.texts " COLLATE \"") (r := Template.texts "\"") rfl rfl s
  simp only [List.map_cons, Fragment.concat_cons, Template.concat_texts] at h
  simp [Field.collate, Field.computed, render_ofExpr, Expr.doc, Arg.doc?, h,
    Fragment.ident_append, Fragment.append_assoc]

theorem render_cast (f : Field) (s : String) (type : FieldType) (e : Exclude) :
    (f.cast s type).render e = ((Fragment.ident "CAST(").append (f.doc e).render).append
      ((Fragment.ident (" AS " ++ s)).append (.ident ")")) := by
  have h := Template.render_around_literal Field.not_endsInSlot_cast ")" [some (f.doc e)]
    (l := Template.texts "CAST(" ++ f.doc e :: Template.texts " AS ")
    (r := Template.texts ")") rfl rfl s
  simp only [List.map_append, List.map_cons, Fragment.concat_append, Fragment.concat_cons,
    Template.concat_texts] at h
  simp [Field.cast, Field.computed, render_ofExpr, Expr.doc, Arg.doc?, h, Fragment.ident_append,
    Fragment.append_assoc]

/-- A call is written with all of its arguments, whether or not they have text. -/
theorem render_call (name : String) (type : FieldType) (args : List Field) (e : Exclude) :
    (Function.call name type args).render e =
      (Fragment.ident (name ++ "(")).append
        ((Fragment.concat ((args.map (·.render e)).intersperse (.ident ", "))).append
          (.ident ")")) := by
  obtain ⟨parts, hfill, hparts⟩ := Template.fill_listed (args.map (·.doc e))
  have hargs : argDocs e (args.map .field) = (args.map (·.doc e)).map some := by simp [Arg.doc?]
  have htext : Neutral.escape name ++ "(" ++ ", ".intercalate (args.map fun _ => "?") ++ ")" =
      "" ++ Neutral.escape (name ++ "(") ++
        (", ".intercalate ((args.map (·.doc e)).map fun _ => "?") ++ ")") := by
    have hopen : Neutral.escape "(" = "(" := Neutral.escape_eq_self (by decide)
    simp [Neutral.escape_append, hopen, String.append_assoc, Function.comp_def]
  have h := Template.render_around_literal (l := []) Neutral.not_endsInSlot_empty _ _ rfl hfill
    (name ++ "(")
  rw [Function.call, Field.computed, render_ofExpr, Expr.doc, hargs, htext, h, hparts]
  simp [Field.render]
  rfl

theorem render_rawAssignment (assigned : Field) (target : Exclude) {s : String} (hs : s ≠ "") :
    ((Assignment.mk assigned (.raw s)).doc target).render =
      (assigned.doc target).render.append ((Fragment.ident (" = " ++ s)).append .empty) := by
  have h : ((Field.raw s).doc .none).render = .ident s := render_raw s .none
  have hv : ((Field.raw s).doc .none).vanishes = false := by
    rw [Doc.vanishes, h]
    simpa using hs
  simp [Assignment.doc, Doc.lead, Doc.render_framed hv, h, Doc.empty, Fragment.ident_append,
    Fragment.append_assoc]

/-- Every place writes its text literally. -/
theorem literally (p : Place) : Literally (p.write ·) (p.Shows ·) := by
  cases p with
  | column qualifier type e =>
      cases qualifier with
      | none =>
          refine literally_of_ident "" "" .empty fun s _ => ?_
          simp [write, render_ofExpr, Expr.doc, columnDoc]
      | some q =>
          cases he : e.contains q with
          | true =>
              refine literally_of_ident "" "" .empty fun s _ => ?_
              simp [write, render_ofExpr, Expr.doc, columnDoc, he]
          | false =>
              refine literally_of_ident (q ++ ".") "" .empty fun s _ => ?_
              simp [write, render_ofExpr, Expr.doc, columnDoc, he, Fragment.ident_append,
                Fragment.append_assoc]
  | columnQualifier name type e =>
      refine literally_of_ident "" ("." ++ name) .empty fun s hs => ?_
      obtain ⟨hne, he⟩ := hs
      simp [write, Field.qualified, nonempty?, hne, render_ofExpr, Expr.doc, columnDoc, he,
        Fragment.ident_append]
  | table inSchema =>
      cases h : (inSchema.isEmpty || inSchema == "public") with
      | true =>
          refine literally_of_ident "" "" .empty fun s _ => ?_
          simp [write, TableSource.render, TableSource.doc, BaseTable.doc, BaseTable.ofSchema,
            BaseTable.inDefaultSchema, h]
      | false =>
          refine literally_of_ident (inSchema ++ ".") "" .empty fun s _ => ?_
          simp [write, TableSource.render, TableSource.doc, BaseTable.doc, BaseTable.ofSchema,
            BaseTable.inDefaultSchema, h, Fragment.ident_append, Fragment.append_assoc]
  | schema ofTable =>
      refine literally_of_ident "" ("." ++ ofTable) .empty fun s hs => ?_
      obtain ⟨hne, hp⟩ := hs
      simp [write, TableSource.render, TableSource.doc, BaseTable.doc, BaseTable.ofSchema,
        BaseTable.inDefaultSchema, hne, hp, Fragment.ident_append]
  | tableLabel t =>
      refine literally_label t.doc fun s hs => ⟨hs.2, ?_⟩
      have hlabel : nonempty? s = some s := by simp [nonempty?, hs.1]
      simp only [write, TableSource.renderSource, TableSource.doc, TableSource.label,
        BaseTable.labelled, hlabel]
      rfl
  | queryLabel q =>
      refine literally_label (.parens q.doc) fun s _ => ⟨by simp [q.doc_not_vanishes], ?_⟩
      simp only [write, TableSource.renderSource, TableSource.doc, TableSource.label,
        Query.doc_labelled, Query.label_labelled]
  | expressionLabel t =>
      refine literally_label t.doc fun s hs => ⟨hs.2, ?_⟩
      have hlabel : nonempty? s = some s := by simp [nonempty?, hs.1]
      cases t
      simp only [write, TableSource.renderSource, TableSource.doc, TableSource.label,
        CustomTable.visibleLabel, hlabel, CustomTable.doc]
  | referenceLabel name =>
      refine literally_label (.text name) fun s hs => ⟨by simpa [Shows] using hs, ?_⟩
      simp only [write, TableSource.renderSource, TableSource.doc, TableSource.label]
  | fieldLabel f e =>
      refine literally_label (f.expr.doc e) fun s hs => ⟨hs, ?_⟩
      cases f
      simp only [write, Field.renderProjection, Field.labelled, Field.projectionDoc]
  | cte columns query recursive materialized =>
      refine literally_of_ident "" (cteHead "" columns materialized ++ "(")
        (query.doc.render.append (.ident ")")) fun s _ => ?_
      simp [write, render_cte, cteHead, String.append_assoc]
  | cteColumn name before after query recursive materialized =>
      obtain ⟨l, r, h⟩ := exists_intercalate ", " before after
      refine literally_of_ident (name ++ " (" ++ l)
        (r ++ ")" ++ materializedWords materialized ++ "(")
        (query.doc.render.append (.ident ")")) fun s _ => ?_
      simp [write, render_cte, cteHead, h, String.append_assoc]
  | cteUse columns query recursive materialized =>
      refine literally_of_ident "" "" .empty fun s _ => ?_
      simp [write, TableSource.render, TableSource.doc]
  | cteReference label =>
      refine literally_of_ident "" "" .empty fun s _ => ?_
      simp [write, TableSource.render, TableSource.doc]
  | lockTable strength before after w =>
      obtain ⟨l, r, h⟩ := exists_intercalate ", " before after
      refine literally_of_ident (strength.words ++ " OF " ++ l) (r ++ w.words) .empty fun s _ => ?_
      simp [write, Lock.doc, h, Fragment.ident_append, Fragment.append_assoc]
  | constraint filters target =>
      refine literally_of_ident " ON CONSTRAINT " "" .empty fun s _ => ?_
      simp [write, ConflictTarget.doc]
  | collation f e =>
      refine literally_after (f.doc e).render (.ident "\"") (a := " COLLATE \"") (by decide)
        (by decide) fun s _ => ?_
      simp only [write, render_collate]
  | sqlType f type e =>
      refine literally_after ((Fragment.ident "CAST(").append (f.doc e).render) (.ident ")")
        (a := " AS ") (by decide) (by decide) fun s _ => ?_
      simp only [write, render_cast]
  | function type args e =>
      refine literally_of_ident "" "(" ((Fragment.concat ((args.map (·.render e)).intersperse
        (.ident ", "))).append (.ident ")")) fun s _ => ?_
      simp [write, render_call]
  | rawField e =>
      refine literally_of_ident "" "" .empty fun s _ => ?_
      simp [write, render_raw]
  | rawPredicate e whole =>
      refine literally_of_ident "" "" .empty fun s _ => ?_
      simp only [write, Predicate.raw, Predicate.doc, Template.render_escape]
      simp
  | rawAssignment assigned target =>
      refine literally_after (assigned.doc target).render .empty (a := " = ") (by decide)
        (by decide) fun s hs => ?_
      simp only [write]
      exact render_rawAssignment assigned target hs

end Place

/-- Literal text is transparent. It reads back as itself: both ways to write it agree, there is no
slot in it, a template made of it takes no argument, and one around it takes the arguments that it
takes without it. After any text that does not end in a slot and before any text, a dialect writes
it as it is, and everything else as without it. All places for names and raw SQL write literal
text. -/
theorem literal_text_transparent :
    (∀ s : String,
      (∀ f : Fragment, f.pushIdent s = f.pushText (Neutral.escape s)) ∧
      Neutral.slotCount (Neutral.escape s) = 0 ∧
      (∀ args, (Template.doc (Neutral.escape s) args).render = ⟨Neutral.escape s, []⟩) ∧
      ∀ before after : String, ¬ Neutral.EndsInSlot before →
        (∀ args,
          let l? := Template.fill (Neutral.marks before.toList) args
          let r? := Template.fill (Neutral.marks after.toList)
            (args.drop (Neutral.slotCount before))
          Template.fill (Neutral.marks (before ++ after).toList) args =
            (l?.bind fun l => r?.map fun r => l ++ r) ∧
          Template.fill (Neutral.marks (before ++ Neutral.escape s ++ after).toList) args =
            (l?.bind fun l => r?.map fun r => l ++ Template.texts s ++ r)) ∧
        ∀ (d : Dialect) (args : List Value),
          let head := (d.renumber ⟨before, args⟩).sql
          let tail := String.ofList
            (d.spell (Neutral.slotCount before) (Neutral.marks after.toList))
          d.renumber ⟨before ++ after, args⟩ = ⟨head ++ tail, args, d⟩ ∧
          d.renumber ⟨before ++ Neutral.escape s ++ after, args⟩ = ⟨head ++ s ++ tail, args, d⟩) ∧
    ∀ p : Place, ∃ before after : Fragment, ¬ Neutral.EndsInSlot before.sql ∧
      ∀ s, p.Shows s → p.write s = before.append ((Fragment.ident s).append after) := by
  refine ⟨fun s => ⟨fun f => ?_, Neutral.slotCount_escape s, fun args => ?_,
    fun before after h => ⟨fun args => ⟨?_, ?_⟩, fun d args => ⟨?_, ?_⟩⟩⟩, Place.literally⟩
  · apply Fragment.ext <;> simp
  · rw [Template.render_escape]
    apply Fragment.ext <;> simp
  · rw [String.toList_append, Neutral.marks_append h, Template.fill_append]
    rfl
  · exact Template.fill_around_literal h s after args
  · exact Dialect.renumber_append h d after args
  · exact Dialect.renumber_around_literal h d s after args

end SqlCompose
