import SqlCompose.Proofs.Erasure
import SqlCompose.Proofs.Insertion

/-!
# Columns and tuples of insertions

The calls that build an insertion, and what they leave as its columns and rows. An insertion that is
given its columns one by one with their values, or all of them before rows of that length, lists
each column by its bare name and has a value for each of them in every tuple.
-/

namespace SqlCompose

/-! ## Columns of the target -/

/-- A column of a table, without an order to sort by. -/
structure Field.ColumnOf (t : BaseTable) (f : Field) : Prop where
  expr : f.expr = .column (some t.qualifier) f.name ∨ f.expr = .column none f.name
  name : f.name ≠ ""
  order : f.order = none
  nulls : f.nulls = none

theorem Field.ColumnOf.render {t : BaseTable} {f : Field} (h : f.ColumnOf t)
    (hdot : t.qualifier.toList.getLast? ≠ some '.') :
    (f.doc ⟨[t.qualifier]⟩).render = .ident f.name := by
  have hcontains : (⟨[t.qualifier]⟩ : Exclude).contains t.qualifier = true := by
    simp [Exclude.contains, Exclude.stripDot_eq_self hdot]
  obtain ⟨hexpr, hname, horder, hnulls⟩ := h
  have hdoc : f.expr.doc ⟨[t.qualifier]⟩ = .text f.name := by
    rcases hexpr with hexpr | hexpr
    · rw [hexpr, Expr.doc, columnDoc, if_pos hcontains]
    · rw [hexpr, Expr.doc, columnDoc]
  have hfield : f.doc ⟨[t.qualifier]⟩ = .follow (.text f.name) (.text "") := by
    rw [← hdoc]
    obtain ⟨expr, type, label, order, nulls⟩ := f
    obtain rfl : order = none := horder
    obtain rfl : nulls = none := hnulls
    simp only [Field.doc]
    rfl
  have htext : (Doc.text f.name).vanishes = false := by
    rw [Doc.vanishes_text, Bool.eq_false_iff, Ne, String.isEmpty_iff]
    exact hname
  rw [hfield, Doc.follow, Doc.render_framed htext, Doc.render_eq_empty _ Doc.vanishes_empty,
    Doc.render_eq_empty (.text "") (by simp), Fragment.empty_append, Fragment.append_empty,
    Doc.render_text]

namespace Insert

/-! ## Calls -/

inductive Edit where
  | addCte (c : Cte)
  | assign (column value : Field)
  | assign? (column : Field) (value : Option Field)
  | withColumns (columns : List Field)
  | addRow (values : List Field)
  | fromQuery (q : Query)
  | defaultValues
  | onConflict (target : ConflictTarget) (action : ConflictAction)
  | addReturning (fields : List Field)
  | returningOne
  | labelled (label : String)
  | inDialect (d : Dialect)
  | asNested

namespace Edit

def run (s : Insert) : Edit → Insert
  | .addCte c => s.addCte c
  | .assign column value => s.assign column value
  | .assign? column value => s.assign? column value
  | .withColumns columns => s.withColumns columns
  | .addRow values => s.addRow values
  | .fromQuery q => s.fromQuery q
  | .defaultValues => s.defaultValues
  | .onConflict target action => s.onConflict target action
  | .addReturning fields => s.addReturning fields
  | .returningOne => s.returningOne
  | .labelled label => s.labelled label
  | .inDialect d => s.inDialect d
  | .asNested => s.asNested

/-- Whether a call is about columns, rows or where rows come from. -/
def fills : Edit → Bool
  | .assign _ _ | .withColumns _ | .addRow _ | .fromQuery _ | .defaultValues => true
  | .assign? _ value => value.isSome
  | _ => false

/-- The column and the value that a call sets. -/
def pair? : Edit → Option (Field × Field)
  | .assign column value => some (column, value)
  | .assign? column value => value.map (column, ·)
  | _ => none

def row? : Edit → Option (List Field)
  | .addRow values => some values
  | _ => none

end Edit

def givenPairs (edits : List Edit) : List (Field × Field) := edits.filterMap Edit.pair?

def givenRows (edits : List Edit) : List (List Field) := edits.filterMap Edit.row?

def built (target : BaseTable) (edits : List Edit) : Insert := edits.foldl Edit.run (into target)

/-! ## What calls leave -/

/-- The parts of an insertion that its columns and tuples are made of. -/
structure Contents where
  target : BaseTable
  columns : List Field
  rows : List Tuple
  source : InsertSource

def contents (s : Insert) : Contents := ⟨s.target, s.columns, s.rows, s.source⟩

namespace Contents

def assign (c : Contents) (p : Field × Field) : Contents :=
  { c with columns := c.columns ++ [p.1], rows := addToFirst p.2 c.rows }

def addRow (c : Contents) (values : List Field) : Contents :=
  { c with rows := c.rows ++ [⟨values⟩] }

/-- A first row that grows value by value. -/
theorem foldl_assign (ps : List (Field × Field)) (c : Contents) (values : List Field)
    (h : c.rows = [⟨values⟩]) : ps.foldl assign c =
      { c with
        columns := c.columns ++ ps.map Prod.fst
        rows := [⟨values ++ ps.map Prod.snd⟩] } := by
  induction ps generalizing c values with
  | nil => simp [← h]
  | cons p ps ih =>
      have hrows : (c.assign p).rows = [⟨values ++ [p.2]⟩] := by simp [assign, h, addToFirst]
      rw [List.foldl_cons, ih (c.assign p) (values ++ [p.2]) hrows]
      simp [assign]

theorem foldl_addRow (rows : List (List Field)) (c : Contents) :
    rows.foldl addRow c = { c with rows := c.rows ++ rows.map Tuple.mk } := by
  induction rows generalizing c with
  | nil => simp
  | cons r rows ih =>
      rw [List.foldl_cons, ih]
      simp [addRow]

end Contents

namespace Edit

theorem contents_run_of_not_fills {c : Edit} (h : c.fills = false) (s : Insert) :
    (c.run s).contents = s.contents := by
  cases c with
  | assign? column value =>
      cases value with
      | none => rfl
      | some value => cases h
  | assign column value | withColumns columns | addRow values | fromQuery q | defaultValues =>
      cases h
  | _ => rfl

theorem contents_run_of_pair {c : Edit} {p : Field × Field} (h : c.pair? = some p) (s : Insert) :
    (c.run s).contents = s.contents.assign p := by
  cases c with
  | assign column value =>
      obtain rfl := Option.some.inj h
      rfl
  | assign? column value =>
      obtain ⟨v, rfl, rfl⟩ := Option.map_eq_some_iff.mp h
      rfl
  | _ => cases h

theorem contents_run_of_row {c : Edit} {values : List Field} (h : c.row? = some values)
    (s : Insert) : (c.run s).contents = s.contents.addRow values := by
  cases c with
  | addRow vs =>
      obtain rfl := Option.some.inj h
      rfl
  | _ => cases h

theorem contents_foldl_of_not_fills {cs : List Edit} (h : ∀ c ∈ cs, c.fills = false) (s : Insert) :
    (cs.foldl run s).contents = s.contents := by
  induction cs generalizing s with
  | nil => rfl
  | cons c cs ih =>
      rw [List.foldl_cons, ih fun d hd => h d (List.mem_cons_of_mem c hd),
        contents_run_of_not_fills (h c List.mem_cons_self)]

/-- Calls of one kind add up; those that fill nothing can be left out. -/
theorem contents_foldl {α : Type} {part? : Edit → Option α} {add : Contents → α → Contents}
    (hpart : ∀ (c : Edit) (a : α), part? c = some a → ∀ s, (c.run s).contents = add s.contents a)
    {cs : List Edit} (h : ∀ c ∈ cs, c.fills = true → (part? c).isSome = true) (s : Insert) :
    (cs.foldl run s).contents = (cs.filterMap part?).foldl add s.contents := by
  induction cs generalizing s with
  | nil => rfl
  | cons c cs ih =>
      rw [List.foldl_cons, ih fun d hd => h d (List.mem_cons_of_mem c hd)]
      cases hc : part? c with
      | some a => rw [List.filterMap_cons_some hc, List.foldl_cons, hpart c a hc]
      | none =>
          have hidle : c.fills = false := by
            cases hf : c.fills with
            | false => rfl
            | true =>
                have hsome := h c List.mem_cons_self hf
                rw [hc] at hsome
                cases hsome
          rw [List.filterMap_cons_none hc, contents_run_of_not_fills hidle]

end Edit

theorem contents_built_of_pairs (target : BaseTable) {edits : List Edit}
    (h : ∀ c ∈ edits, c.fills = true → c.pair?.isSome = true) (hne : givenPairs edits ≠ []) :
    (built target edits).contents =
      ⟨target, (givenPairs edits).map Prod.fst, [⟨(givenPairs edits).map Prod.snd⟩], .rows⟩ := by
  rw [built, Edit.contents_foldl (fun c p => Edit.contents_run_of_pair) h, ← givenPairs]
  cases hps : givenPairs edits with
  | nil => exact absurd hps hne
  | cons p ps =>
      rw [List.foldl_cons, Contents.foldl_assign ps _ [p.2] rfl]
      rfl

theorem contents_built_of_rows (target : BaseTable) {before after : List Edit} (cs : List Field)
    (hbefore : ∀ c ∈ before, c.fills = false)
    (hafter : ∀ c ∈ after, c.fills = true → c.row?.isSome = true) :
    (built target (before ++ .withColumns cs :: after)).contents =
      ⟨target, cs, (givenRows after).map Tuple.mk, .rows⟩ := by
  have hfirst := Edit.contents_foldl_of_not_fills hbefore (into target)
  have hcolumns (s : Insert) :
      (s.withColumns cs).contents = { s.contents with columns := cs } := rfl
  rw [built, List.foldl_append, List.foldl_cons,
    Edit.contents_foldl (fun c r => Edit.contents_run_of_row) hafter, ← givenRows,
    Contents.foldl_addRow, Edit.run, hcolumns, hfirst]
  rfl

/-! ## Texts of columns and tuples -/

/-- The text of an insertion lists columns by their names, and tuples with a value for each. -/
structure Lines (s : Insert) (cs : List Field) (rows : List (List Field)) : Prop where
  length : ∀ r ∈ rows, r.length = cs.length
  body : (Query.insert s).body = s.sentence
    ((Fragment.raw " ").append (.inParens (.listed (cs.map fun c => .ident c.name))))
    ((Fragment.raw "VALUES ").append
      (.listed (rows.map fun r => .inParens (.listed (r.map Field.valueText)))))
    (conflictText s.bareTarget s.assigned.isEmpty s.conflict)

theorem render_columns {t : BaseTable} (hdot : t.qualifier.toList.getLast? ≠ some '.')
    {cs : List Field} (hne : cs ≠ []) (h : ∀ c ∈ cs, c.ColumnOf t) :
    (Doc.enclosed " (" ")" (.list (fieldDocs ⟨[t.qualifier]⟩ cs))).render =
      (Fragment.raw " ").append (.inParens (.listed (cs.map fun c => .ident c.name))) := by
  have htext : ∀ c ∈ cs, (c.doc ⟨[t.qualifier]⟩).render = .ident c.name :=
    fun c hc => (h c hc).render hdot
  have hshows : ∀ c ∈ cs, (c.doc ⟨[t.qualifier]⟩).vanishes = false := by
    intro c hc
    rw [Doc.vanishes, htext c hc, Fragment.isEmpty_ident, Bool.eq_false_iff, Ne,
      String.isEmpty_iff]
    exact (h c hc).name
  have hlist : (Doc.list (fieldDocs ⟨[t.qualifier]⟩ cs)).vanishes = false := by
    cases cs with
    | nil => exact absurd rfl hne
    | cons c cs => simp [hshows c List.mem_cons_self]
  have hparen : Fragment.raw " (" = (Fragment.raw " ").append (.raw "(") := rfl
  rw [Doc.render_enclosed (by decide) (by decide) hlist, Doc.render_list, fieldDocs_eq,
    Doc.shown_map_of_not_vanishes hshows htext, hparen, Fragment.append_assoc]
  rfl

theorem lines_of_contents {s : Insert} {t : BaseTable} {cs : List Field}
    {rows : List (List Field)} (hs : s.contents = ⟨t, cs, rows.map Tuple.mk, .rows⟩)
    (hdot : t.qualifier.toList.getLast? ≠ some '.') (hcs : cs ≠ []) (hrows : rows ≠ [])
    (hcolumns : ∀ c ∈ cs, c.ColumnOf t) (hlength : ∀ r ∈ rows, r.length = cs.length) :
    s.Lines cs rows := by
  have htarget : s.target = t := congrArg Contents.target hs
  have hcolumnsOf : s.columns = cs := congrArg Contents.columns hs
  have hrowsOf : s.rows = rows.map Tuple.mk := congrArg Contents.rows hs
  have hsource : s.source = .rows := congrArg Contents.source hs
  have htuples : tuples s.rows =
      rows.map fun r => .inParens (.listed (r.map Field.valueText)) := by
    have hkept : (rows.map Tuple.mk).filter (! ·.values.isEmpty) = rows.map Tuple.mk := by
      refine List.filter_eq_self.mpr fun r hr => ?_
      obtain ⟨values, hvalues, rfl⟩ := List.mem_map.mp hr
      have hlen := hlength values hvalues
      cases values with
      | nil => exact absurd (List.eq_nil_of_length_eq_zero hlen.symm) hcs
      | cons v vs => rfl
    rw [tuples, hrowsOf, hkept, List.map_map]
    rfl
  refine ⟨hlength, ?_⟩
  have hnonempty : s.rows.isEmpty = false := by
    rw [hrowsOf]
    cases rows with
    | nil => exact absurd rfl hrows
    | cons r rows => rfl
  rw [body_eq, columnsText, bareTarget, htarget, hcolumnsOf, render_columns hdot hcs hcolumns,
    hsource, hnonempty, InsertSource.text, rowsText, if_neg Bool.false_ne_true, htuples]

/-- The columns and the tuples of an insertion are aligned if each column comes with its value, or
if the columns come before rows of their length. -/
theorem columns_and_tuples_aligned (target : BaseTable)
    (hdot : target.qualifier.toList.getLast? ≠ some '.') :
    (∀ edits : List Edit, (∀ c ∈ edits, c.fills = true → c.pair?.isSome = true) →
      givenPairs edits ≠ [] → (∀ p ∈ givenPairs edits, p.1.ColumnOf target) →
      (built target edits).Lines ((givenPairs edits).map Prod.fst)
        [(givenPairs edits).map Prod.snd]) ∧
    ∀ (before : List Edit) (cs : List Field) (after : List Edit),
      (∀ c ∈ before, c.fills = false) → (∀ c ∈ after, c.fills = true → c.row?.isSome = true) →
      cs ≠ [] → givenRows after ≠ [] → (∀ c ∈ cs, c.ColumnOf target) →
      (∀ r ∈ givenRows after, r.length = cs.length) →
      (built target (before ++ .withColumns cs :: after)).Lines cs (givenRows after) := by
  refine ⟨fun edits h hps hcolumns => ?_,
    fun before cs after hbefore hafter hcs hrows hcolumns hlength => ?_⟩
  · have hcontents := contents_built_of_pairs target h hps
    refine lines_of_contents hcontents hdot (by simpa using hps) (by simp) ?_ (by simp)
    intro c hc
    obtain ⟨p, hp, rfl⟩ := List.mem_map.mp hc
    exact hcolumns p hp
  · have hcontents := contents_built_of_rows target cs hbefore hafter
    exact lines_of_contents hcontents hdot hcs hrows hcolumns hlength

def users : BaseTable := (BaseTable.ofName "users").labelled "u"

def userColumns : List Field := [users.get "tags", users.get "what?"]

/-- One column after the other, the first of them with an array of no values. -/
def onePair : List Edit :=
  [.assign (users.get "tags") (.custom "ARRAY[?]" [.list []]), .assign? (users.get "age") none,
    .onConflict .any .nothing, .assign? (users.get "what?") (some (.value (.text "bob")))]

def twoRows : List Edit :=
  [.addRow [.value (.text "a"), .null], .returningOne, .addRow [.raw "", .value (.bigInt 7)]]

theorem columns_and_tuples_of_users :
    (built users onePair).Lines userColumns
      [[.custom "ARRAY[?]" [.list []], .value (.text "bob")]] ∧
    (Query.insert (built users onePair)).body.sql =
      "INSERT INTO users AS u (tags, what??) VALUES (NULL, ?) ON CONFLICT DO NOTHING" ∧
    (built users ([.asNested] ++ .withColumns userColumns :: twoRows)).Lines userColumns
      [[.value (.text "a"), .null], [.raw "", .value (.bigInt 7)]] ∧
    (Query.insert (built users ([.asNested] ++ .withColumns userColumns :: twoRows))).body.sql =
      "INSERT INTO users AS u (tags, what??) VALUES (?, NULL), (NULL, ?) RETURNING 1" := by
  have hcolumns : ∀ c ∈ userColumns, c.ColumnOf users :=
    List.forall_mem_cons.mpr ⟨⟨.inl rfl, by decide, rfl, rfl⟩,
      List.forall_mem_singleton.mpr ⟨.inl rfl, by decide, rfl, rfl⟩⟩
  obtain ⟨hpairs, hrows⟩ := columns_and_tuples_aligned users (by decide)
  refine ⟨hpairs onePair ?_ ?_ ?_, rfl,
    hrows [.asNested] userColumns twoRows ?_ ?_ ?_ ?_ hcolumns ?_, rfl⟩
  · simp [onePair, Edit.fills, Edit.pair?]
  · simp [givenPairs, onePair, Edit.pair?]
  · intro p hp
    exact hcolumns p.1 (List.mem_map_of_mem hp)
  · simp [Edit.fills]
  · simp [twoRows, Edit.fills, Edit.row?]
  · simp [userColumns]
  · simp [givenRows, twoRows, Edit.row?]
  · simp [givenRows, twoRows, Edit.row?, userColumns]

end Insert

end SqlCompose
