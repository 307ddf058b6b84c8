import SqlCompose.Insert
import SqlCompose.Proofs.Unfiltered

/-!
# Insertions and their keywords

`VALUES` needs a tuple and `DO UPDATE SET` an assignment; without them an insertion takes default
values, and a conflict clause does nothing. There are tuples and assignments to write if some row
has a value and some assigned value has text. The layout asks another question, whether there are
rows and assignments at all, so it leaves a keyword bare when the two answers differ.
-/

namespace SqlCompose

namespace Fragment

def listed (fs : List Fragment) : Fragment := .concat (fs.intersperse (.raw ", "))

def inParens (f : Fragment) : Fragment := (raw "(").append (f.append (raw ")"))

/-- Texts that are the same up to some place and go on with different characters. -/
def Diverge (f g : Fragment) : Prop :=
  ∃ (l : List Char) (a b : Char) (u v : List Char), a ≠ b ∧
    f.sql.toList = l ++ a :: u ∧ g.sql.toList = l ++ b :: v

theorem Diverge.ne {f g : Fragment} (h : f.Diverge g) : f ≠ g := by
  rintro rfl
  obtain ⟨l, a, b, u, v, hab, hf, hg⟩ := h
  rw [hf, List.append_cancel_left_eq] at hg
  exact hab (List.cons.inj hg).1

theorem Diverge.symm {f g : Fragment} (h : f.Diverge g) : g.Diverge f := by
  obtain ⟨l, a, b, u, v, hab, hf, hg⟩ := h
  exact ⟨l, b, a, v, u, hab.symm, hg, hf⟩

theorem Diverge.not_isEmpty {f g : Fragment} (h : f.Diverge g) : f.isEmpty = false := by
  obtain ⟨l, a, b, u, v, hab, hf, hg⟩ := h
  rw [isEmpty, Bool.eq_false_iff, Ne, String.isEmpty_iff, ← String.toList_eq_nil_iff, hf]
  simp

theorem Diverge.after {f g : Fragment} (h : f.Diverge g) (p : Fragment) :
    (p.append f).Diverge (p.append g) := by
  obtain ⟨l, a, b, u, v, hab, hf, hg⟩ := h
  exact ⟨p.sql.toList ++ l, a, b, u, v, hab, by simp [hf], by simp [hg]⟩

theorem Diverge.before {f g : Fragment} (h : f.Diverge g) (r r' : Fragment) :
    (f.append r).Diverge (g.append r') := by
  obtain ⟨l, a, b, u, v, hab, hf, hg⟩ := h
  exact ⟨l, a, b, u ++ r.sql.toList, v ++ r'.sql.toList, hab, by simp [hf], by simp [hg]⟩

theorem exists_concat_intersperse_after (s : Fragment) (before : List Fragment) :
    ∃ l : Fragment, ∀ (f : Fragment) (after : List Fragment), ∃ r : Fragment,
      concat ((before ++ f :: after).intersperse s) = l.append (f.append r) := by
  induction before with
  | nil =>
      refine ⟨.empty, fun f after => ?_⟩
      cases after with
      | nil => exact ⟨.empty, by simp⟩
      | cons g after => exact ⟨s.append (concat ((g :: after).intersperse s)), by simp⟩
  | cons b before ih =>
      obtain ⟨l, h⟩ := ih
      refine ⟨b.append (s.append l), fun f after => ?_⟩
      obtain ⟨r, hr⟩ := h f after
      obtain ⟨g, rest, hg⟩ := List.exists_cons_of_ne_nil (l := before ++ f :: after) (by simp)
      rw [hg] at hr
      exact ⟨r, by rw [List.cons_append, hg]; simp [hr, append_assoc]⟩

/-- The fragments with text, one space apart. -/
def spaced (fs : List Fragment) : Fragment :=
  .concat ((fs.filter (! ·.isEmpty)).intersperse (.raw " "))

theorem Diverge.spaced {f g : Fragment} (h : f.Diverge g) (before after after' : List Fragment) :
    (spaced (before ++ f :: after)).Diverge (spaced (before ++ g :: after')) := by
  obtain ⟨l, hl⟩ := exists_concat_intersperse_after (.raw " ") (before.filter (! ·.isEmpty))
  obtain ⟨r, hr⟩ := hl f (after.filter (! ·.isEmpty))
  obtain ⟨r', hr'⟩ := hl g (after'.filter (! ·.isEmpty))
  rw [Fragment.spaced, Fragment.spaced, List.filter_append, List.filter_append,
    List.filter_cons_of_pos (by simp [h.not_isEmpty]),
    List.filter_cons_of_pos (by simp [h.symm.not_isEmpty]), hr, hr']
  exact (h.before r r').after l

end Fragment

namespace Doc

/-- The documents of a list that are shown, when it is known which they are and what they say. -/
theorem shown_map {α : Type} {doc : α → Doc} {text : α → Fragment} {empty : α → Bool} {as : List α}
    (hempty : ∀ a ∈ as, (doc a).vanishes = empty a)
    (htext : ∀ a ∈ as, empty a = false → (doc a).render = text a) :
    shown (as.map doc) = (as.filter (! empty ·)).map text := by
  induction as with
  | nil => rfl
  | cons a as ih =>
      have hrest := ih (fun b hb => hempty b (List.mem_cons_of_mem a hb))
        fun b hb => htext b (List.mem_cons_of_mem a hb)
      have hfirst := hempty a List.mem_cons_self
      rw [List.map_cons, ← List.nil_append (doc a :: _)]
      cases ha : empty a with
      | true =>
          rw [shown_of_vanishes (hfirst.trans ha), List.filter_cons_of_neg (by simp [ha])]
          exact hrest
      | false =>
          rw [shown_of_not_vanishes (hfirst.trans ha), List.filter_cons_of_pos (by simp [ha]),
            List.map_cons, htext a List.mem_cons_self ha, hrest]
          rfl

theorem shown_map_of_not_vanishes {α : Type} {doc : α → Doc} {text : α → Fragment} {as : List α}
    (hne : ∀ a ∈ as, (doc a).vanishes = false) (htext : ∀ a ∈ as, (doc a).render = text a) :
    shown (as.map doc) = as.map text := by
  rw [shown_map hne fun a ha _ => htext a ha]
  exact congrArg (List.map text) (List.filter_eq_self.mpr fun _ _ => rfl)

theorem render_list (ds : List Doc) : (list ds).render = .listed (shown ds) := by
  rw [list, render_joined, joinParts_eq]
  simp [shown, Fragment.listed]

theorem render_enclosed {o c : String} (ho : '?' ∉ o.toList) (hc : '?' ∉ c.toList) {d : Doc}
    (h : d.vanishes = false) :
    (enclosed o c d).render = (Fragment.raw o).append (d.render.append (.raw c)) := by
  rw [enclosed, render_framed h, render_text, render_text, Fragment.ident_eq_raw ho,
    Fragment.ident_eq_raw hc]

end Doc

/-! ## Rows -/

/-- The text of an inserted value. -/
def Field.valueText (f : Field) : Fragment :=
  if (f.render .none).isEmpty then .raw "NULL" else f.render .none

theorem Field.render_orNull (f : Field) : (Doc.orNull (f.doc .none)).render = f.valueText := by
  rw [Doc.orNull, Doc.render_orElse, Doc.render_text, Fragment.ident_eq_raw (by decide)]
  rfl

def Tuple.text (r : Tuple) : Fragment := .inParens (.listed (r.values.map Field.valueText))

theorem Tuple.vanishes_doc (r : Tuple) : r.doc.vanishes = r.values.isEmpty := by
  obtain ⟨values⟩ := r
  cases values <;> simp [Tuple.doc]

theorem render_values (values : List Field) :
    (Doc.list (valueDocs values)).render = .listed (values.map Field.valueText) := by
  rw [Doc.render_list, valueDocs_eq, Doc.shown_map_of_not_vanishes
    (fun f _ => Doc.vanishes_orNull _) fun f _ => f.render_orNull]

theorem isEmpty_listed_values {values : List Field} (h : values.isEmpty = false) :
    (Fragment.listed (values.map Field.valueText)).isEmpty = false := by
  rw [← render_values, ← Doc.vanishes]
  rw [← Tuple.vanishes_doc ⟨values⟩] at h
  simpa only [Tuple.doc, Doc.vanishes_parens] using h

theorem Tuple.render_doc {r : Tuple} (h : r.values.isEmpty = false) : r.doc.render = r.text := by
  obtain ⟨values⟩ := r
  have hlist : (Doc.list (valueDocs values)).vanishes = false := by
    rw [Doc.vanishes, render_values]
    exact isEmpty_listed_values h
  simp only [Tuple.doc, Doc.parens]
  rw [Doc.render_enclosed (by decide) (by decide) hlist, render_values]
  rfl

/-- The tuples of some rows: a row without values has none. -/
def tuples (rows : List Tuple) : List Fragment := (rows.filter (! ·.values.isEmpty)).map Tuple.text

theorem shown_tupleDocs (rows : List Tuple) : Doc.shown (tupleDocs rows) = tuples rows := by
  rw [tupleDocs_eq]
  exact Doc.shown_map (fun r _ => r.vanishes_doc) fun _ _ => Tuple.render_doc

/-- The rows of an insertion, or default values in their place. -/
def rowsText (byDefault : Bool) (rows : List Tuple) : Fragment :=
  if byDefault then .raw "DEFAULT VALUES"
  else (Fragment.raw "VALUES ").append (.listed (tuples rows))

def InsertSource.text (byDefault : Bool) (rows : List Tuple) : InsertSource → Fragment
  | .rows => rowsText byDefault rows
  | .query q => q.body

theorem InsertSource.render_doc (source : InsertSource) (rows : List Tuple) :
    (source.doc (if rows.isEmpty then .text "DEFAULT VALUES"
      else .seq [.text "VALUES ", .list (tupleDocs rows)])).render =
      source.text rows.isEmpty rows := by
  cases source with
  | query q => simp only [InsertSource.doc, InsertSource.text, Query.body]
  | rows =>
      simp only [InsertSource.doc, InsertSource.text, rowsText]
      split
      · rw [Doc.render_text, Fragment.ident_eq_raw (by decide)]
      · rw [Doc.render_seq, List.map_cons, List.map_cons, List.map_nil, Doc.render_text,
          Fragment.ident_eq_raw (by decide), Doc.render_list, shown_tupleDocs, Fragment.concat_cons,
          Fragment.concat_cons, Fragment.concat_nil, Fragment.append_empty]

/-! ## Conflict clauses -/

namespace Assignment

def text (target : Exclude) (a : Assignment) : Fragment :=
  (a.column.render target).append ((Fragment.raw " = ").append (a.value.render .none))

theorem vanishes_doc (target : Exclude) (a : Assignment) :
    (a.doc target).vanishes = a.value.vacuous := by
  cases a
  simp only [Assignment.doc, Doc.vanishes_lead, Field.vanishes_doc]

theorem render_doc (target : Exclude) {a : Assignment} (h : a.value.vacuous = false) :
    (a.doc target).render = a.text target := by
  obtain ⟨column, value⟩ := a
  have hvalue : (value.doc .none).vanishes = false := by rw [Field.vanishes_doc, h]
  simp only [Assignment.doc, Doc.lead]
  rw [Doc.render_framed hvalue, Doc.render_eq_empty _ Doc.vanishes_empty]
  simp [Assignment.text, Field.render, Fragment.ident_eq_raw, Fragment.append_assoc]

end Assignment

/-- The assignments that are written: one without a value is left out. -/
def assignmentTexts (target : Exclude) (as : List Assignment) : List Fragment :=
  (as.filter (! ·.value.vacuous)).map (·.text target)

theorem shown_assignmentDocs (target : Exclude) (as : List Assignment) :
    Doc.shown (assignmentDocs target as) = assignmentTexts target as := by
  rw [assignmentDocs_eq]
  exact Doc.shown_map (fun a _ => a.vanishes_doc target) fun _ _ => Assignment.render_doc target

/-- The condition of a clause, after its keyword. -/
def whereText (filters : List Predicate) : Fragment :=
  (Doc.enclosed " WHERE " "" (filterDoc filters)).render

/-- What a conflict clause does; an update may be made to do nothing. -/
def ConflictAction.text (target : Exclude) (inVain : Bool) : ConflictAction → Fragment
  | .nothing => .raw " DO NOTHING"
  | .update as filters =>
    if inVain then .raw " DO NOTHING"
    else (Fragment.raw " DO UPDATE SET ").append
      ((Fragment.listed (assignmentTexts target as)).append (whereText filters))

namespace ConflictAction

def assignments : ConflictAction → List Assignment
  | .nothing => []
  | .update as _ => as

theorem render_doc (target : Exclude) (a : ConflictAction) :
    (a.doc target).render = a.text target a.assignments.isEmpty := by
  cases a with
  | nothing =>
      simp only [ConflictAction.doc, ConflictAction.text]
      rw [Doc.render_text, Fragment.ident_eq_raw (by decide)]
  | update as filters =>
      cases as with
      | nil =>
          simp only [ConflictAction.doc, ConflictAction.text, assignments, List.isEmpty_nil,
            if_true]
          rw [Doc.render_text, Fragment.ident_eq_raw (by decide)]
      | cons a as =>
          have hshown := shown_assignmentDocs target (a :: as)
          simp only [assignmentDocs] at hshown
          simp only [ConflictAction.doc, ConflictAction.text, assignments, List.isEmpty_cons,
            Bool.false_eq_true, if_false]
          rw [Doc.render_seq, List.map_cons, List.map_cons, List.map_cons, List.map_nil,
            Doc.render_text, Fragment.ident_eq_raw (by decide), Doc.render_list, hshown,
            Fragment.concat_cons, Fragment.concat_cons, Fragment.concat_cons, Fragment.concat_nil,
            Fragment.append_empty]
          rfl

end ConflictAction

/-- What a conflict clause says, if there is one. -/
def conflictText (target : Exclude) (inVain : Bool) : Option Conflict → Fragment
  | some c => (Fragment.raw "ON CONFLICT").append
      ((c.target.doc target).render.append (c.action.text target inVain))
  | none => .empty

theorem render_conflictDoc (target : Exclude) (c : Option Conflict) :
    (conflictDoc target c).render =
      conflictText target ((c.map (·.action.assignments.isEmpty)).getD true) c := by
  cases c with
  | none => simp [conflictDoc, conflictText, Doc.empty]
  | some c =>
      obtain ⟨subject, action⟩ := c
      simp [conflictDoc, Conflict.doc, conflictText, Fragment.ident_eq_raw,
        ConflictAction.render_doc]

/-! ## Whole insertions -/

namespace Insert

/-- The qualifiers without which columns of the target stand. -/
def bareTarget (s : Insert) : Exclude := ⟨[s.target.qualifier]⟩

def withText (s : Insert) : Fragment :=
  (Doc.keyword "WITH" (withDoc s.ctes (.list (cteDocs s.ctes)))).render

def returningText (s : Insert) : Fragment :=
  (Doc.keyword "RETURNING" (.list (projectionDocs s.returning))).render

def columnsText (s : Insert) : Fragment :=
  (Doc.enclosed " (" ")" (.list (fieldDocs s.bareTarget s.columns))).render

def head (s : Insert) (columns : Fragment) : Fragment :=
  (Fragment.raw "INSERT INTO ").append (s.target.sourceDoc.render.append columns)

/-- An insertion with given texts for its columns, its source and its conflict clause. -/
def sentence (s : Insert) (columns source conflict : Fragment) : Fragment :=
  .spaced [s.withText, s.head columns, source, conflict, s.returningText]

/-- The assignments of the conflict clause. -/
def assigned (s : Insert) : List Assignment := (s.conflict.map (·.action.assignments)).getD []

/-- An insertion that may be told to take default values and to do nothing about conflicts. -/
def textWith (s : Insert) (byDefault inVain : Bool) : Fragment :=
  s.sentence s.columnsText (s.source.text byDefault s.rows)
    (conflictText s.bareTarget inVain s.conflict)

/-- The text that leaves no keyword bare. -/
def completeText (s : Insert) : Fragment :=
  s.textWith (tuples s.rows).isEmpty (assignmentTexts s.bareTarget s.assigned).isEmpty

theorem body_eq (s : Insert) :
    (Query.insert s).body = s.sentence s.columnsText (s.source.text s.rows.isEmpty s.rows)
      (conflictText s.bareTarget s.assigned.isEmpty s.conflict) := by
  have hassigned :
      s.assigned.isEmpty = (s.conflict.map (·.action.assignments.isEmpty)).getD true := by
    rw [assigned]
    cases s.conflict <;> rfl
  rw [hassigned, ← render_conflictDoc, ← InsertSource.render_doc]
  cases s with
  | mk ctes target columns rows source conflict returning label nested dialect =>
      simp only [Query.body, Query.doc, Insert.doc]
      rw [Doc.render_clauses, Doc.shown]
      simp only [List.map_cons, List.map_nil, Doc.render_seq, Doc.render_text,
        Fragment.concat_cons, Fragment.concat_nil, Fragment.append_empty]
      rw [Fragment.ident_eq_raw (by decide)]
      rfl

/-! ### Bare keywords -/

def takesRows (s : Insert) : Bool :=
  match s.source with
  | .rows => true
  | .query _ => false

def updates (s : Insert) : Bool :=
  match s.conflict with
  | some ⟨_, .update _ _⟩ => true
  | _ => false

theorem diverge_rows (rows : List Tuple) {b c : Bool} (h : b ≠ c) :
    (rowsText b rows).Diverge (rowsText c rows) := by
  have hwords : (Fragment.raw "VALUES ").Diverge (.raw "DEFAULT VALUES") :=
    ⟨[], 'V', 'D', "ALUES ".toList, "EFAULT VALUES".toList, by decide, by decide, by decide⟩
  have hrows := hwords.before (.listed (tuples rows)) .empty
  rw [Fragment.append_empty] at hrows
  cases b <;> cases c
  case false.true => exact hrows
  case true.false => exact hrows.symm
  all_goals exact absurd rfl h

theorem diverge_update (target : Exclude) (as : List Assignment) (filters : List Predicate)
    {b c : Bool} (h : b ≠ c) : ((ConflictAction.update as filters).text target b).Diverge
      ((ConflictAction.update as filters).text target c) := by
  have hwords : (Fragment.raw " DO UPDATE SET ").Diverge (.raw " DO NOTHING") :=
    ⟨" DO ".toList, 'U', 'N', "PDATE SET ".toList, "OTHING".toList, by decide, by decide, by decide⟩
  have haction := hwords.before
    ((Fragment.listed (assignmentTexts target as)).append (whereText filters)) .empty
  rw [Fragment.append_empty] at haction
  cases b <;> cases c
  case false.true => exact haction
  case true.false => exact haction.symm
  all_goals exact absurd rfl h

theorem source_cases (s : Insert) (b c : Bool) :
    ((s.takesRows = true → b = c) ∧ s.source.text b s.rows = s.source.text c s.rows) ∨
      (s.takesRows = true ∧ b ≠ c) ∧ (s.source.text b s.rows).Diverge (s.source.text c s.rows) := by
  cases hs : s.source with
  | query q => exact .inl ⟨by simp [takesRows, hs], rfl⟩
  | rows =>
      by_cases hbc : b = c
      · exact .inl ⟨fun _ => hbc, by rw [hbc]⟩
      · exact .inr ⟨⟨by simp [takesRows, hs], hbc⟩, diverge_rows s.rows hbc⟩

theorem conflict_cases (s : Insert) (b c : Bool) :
    ((s.updates = true → b = c) ∧
      conflictText s.bareTarget b s.conflict = conflictText s.bareTarget c s.conflict) ∨
    (s.updates = true ∧ b ≠ c) ∧ (conflictText s.bareTarget b s.conflict).Diverge
      (conflictText s.bareTarget c s.conflict) := by
  match hs : s.conflict with
  | none => exact .inl ⟨by simp [updates, hs], rfl⟩
  | some ⟨subject, .nothing⟩ => exact .inl ⟨by simp [updates, hs], rfl⟩
  | some ⟨subject, .update as filters⟩ =>
      by_cases hbc : b = c
      · exact .inl ⟨fun _ => hbc, by rw [hbc]⟩
      · refine .inr ⟨⟨by simp [updates, hs], hbc⟩, ?_⟩
        exact ((diverge_update s.bareTarget as filters hbc).after _).after _

theorem textWith_eq_iff (s : Insert) (b b' c c' : Bool) :
    s.textWith b c = s.textWith b' c' ↔
      (s.takesRows = true → b = b') ∧ (s.updates = true → c = c') := by
  obtain ⟨hb, hsource⟩ | ⟨⟨ht, hb⟩, hsource⟩ := s.source_cases b b'
  · rw [textWith, textWith, hsource]
    obtain ⟨hc, hconflict⟩ | ⟨⟨hu, hc⟩, hconflict⟩ := s.conflict_cases c c'
    · rw [hconflict]
      exact iff_of_true rfl ⟨hb, hc⟩
    · have hne := (hconflict.spaced [s.withText, s.head s.columnsText,
        s.source.text b' s.rows] [s.returningText] [s.returningText]).ne
      exact iff_of_false hne fun h => hc (h.2 hu)
  · have hne := (hsource.spaced [s.withText, s.head s.columnsText]
      [conflictText s.bareTarget c s.conflict, s.returningText]
      [conflictText s.bareTarget c' s.conflict, s.returningText]).ne
    exact iff_of_false hne fun h => hb (h.1 ht)

/-- Nothing is kept of a list only if there was nothing, unless something in it is empty. -/
theorem isEmpty_eq_isEmpty_kept {α : Type} (empty : α → Bool) (text : α → Fragment)
    (as : List α) : as.isEmpty = ((as.filter (! empty ·)).map text).isEmpty ↔
      as = [] ∨ ∃ a ∈ as, empty a = false := by
  have hkept : (as.filter (! empty ·)).isEmpty = false ↔ ∃ a ∈ as, empty a = false := by
    rw [Bool.eq_false_iff, Ne, List.isEmpty_iff, List.filter_eq_nil_iff]
    simp
  cases as with
  | nil => simp
  | cons a as =>
      rw [List.isEmpty_cons, eq_comm, List.isEmpty_map, hkept]
      simp

theorem assigned_of_not_updates {s : Insert} (h : s.updates = false) : s.assigned = [] := by
  match hs : s.conflict with
  | none => simp [assigned, hs]
  | some ⟨subject, .nothing⟩ => simp [assigned, hs, ConflictAction.assignments]
  | some ⟨subject, .update as filters⟩ => simp [updates, hs] at h

/-- An insertion leaves no keyword bare exactly if it has no rows or one of them has a value, and it
has no assignments or one of the assigned values has text. -/
theorem keywords_have_bodies_iff (s : Insert) :
    ((Query.insert s).body = s.completeText ↔
      (s.takesRows = true → s.rows = [] ∨ ∃ r ∈ s.rows, r.values.isEmpty = false) ∧
      (s.assigned = [] ∨ ∃ a ∈ s.assigned, a.value.vacuous = false)) ∧
    (Query.insert s).body = s.textWith s.rows.isEmpty s.assigned.isEmpty ∧
    (∀ t ∈ tuples s.rows, ∃ f : Fragment, f.isEmpty = false ∧ t = f.inParens) ∧
    ∀ t ∈ assignmentTexts s.bareTarget s.assigned, t.isEmpty = false := by
  refine ⟨?_, s.body_eq, fun t ht => ?_, fun t ht => ?_⟩
  · rw [s.body_eq, ← textWith, completeText, textWith_eq_iff, tuples, isEmpty_eq_isEmpty_kept,
      assignmentTexts, isEmpty_eq_isEmpty_kept]
    refine and_congr_right fun _ => ⟨fun h => ?_, fun h _ => h⟩
    cases hu : s.updates with
    | true => exact h hu
    | false => exact .inl (assigned_of_not_updates hu)
  · obtain ⟨r, hr, rfl⟩ := List.mem_map.mp ht
    have hvalues : r.values.isEmpty = false := by simpa using (List.mem_filter.mp hr).2
    exact ⟨_, isEmpty_listed_values hvalues, rfl⟩
  · obtain ⟨a, -, rfl⟩ := List.mem_map.mp ht
    simp [Assignment.text]

def rowWithoutValues : Insert :=
  ((into (.ofName "users")).withColumns [.qualified "users" "id" .number]).addRow []

/-- All that is set on a conflict is an array of no values. -/
def updateWithoutValues : Insert :=
  let id := Field.qualified "users" "id" .number
  let tags := Field.qualified "users" "tags" .array
  ((into (.ofName "users")).assign id (.value (.bigInt 1))).onConflict (.columns [id] [])
    ((ConflictAction.updateNothing.assign tags (.custom "ARRAY[?]" [.list []])).addFilter
      ((Field.column "b" .number).eq (.value (.bigInt 7))))

theorem keywords_without_bodies :
    (Query.insert rowWithoutValues).body.sql = "INSERT INTO users (id) VALUES " ∧
    rowWithoutValues.completeText.sql = "INSERT INTO users (id) DEFAULT VALUES" ∧
    (Query.insert updateWithoutValues).body.sql =
      "INSERT INTO users (id) VALUES (?) ON CONFLICT (id) DO UPDATE SET  WHERE b = ?" ∧
    (Query.insert updateWithoutValues).body.args = [.bigInt 1, .bigInt 7] ∧
    updateWithoutValues.completeText.sql =
      "INSERT INTO users (id) VALUES (?) ON CONFLICT (id) DO NOTHING" ∧
    updateWithoutValues.completeText.args = [.bigInt 1] :=
  ⟨rfl, rfl, rfl, rfl, rfl, rfl⟩

end Insert

end SqlCompose
