import SqlCompose.Predicate
import SqlCompose.Proofs.Rendering

/-!
# Layouts of lists and groups

The lists in a layout are laid out member by member. A group is laid out as the members it is left
with once lone inner groups have taken the place of the groups around them.
-/

namespace SqlCompose

/-! ## Lists -/

@[simp] theorem fieldDocs_eq (e : Exclude) (fs : List Field) :
    fieldDocs e fs = fs.map (·.doc e) := by
  induction fs with
  | nil => simp only [fieldDocs, List.map_nil]
  | cons f fs ih => simp only [fieldDocs, ih, List.map_cons]

@[simp] theorem projectionDocs_eq (fs : List Field) :
    projectionDocs fs = fs.map (·.projectionDoc .none) := by
  induction fs with
  | nil => simp only [projectionDocs, List.map_nil]
  | cons f fs ih => simp only [projectionDocs, ih, List.map_cons]

@[simp] theorem valueDocs_eq (fs : List Field) :
    valueDocs fs = fs.map fun f => .orNull (f.doc .none) := by
  induction fs with
  | nil => simp only [valueDocs, List.map_nil]
  | cons f fs ih => simp only [valueDocs, ih, List.map_cons]

@[simp] theorem argDocs_eq (e : Exclude) (args : List Arg) :
    argDocs e args = args.map (·.doc? e) := by
  induction args with
  | nil => simp only [argDocs, List.map_nil]
  | cons a args ih => simp only [argDocs, ih, List.map_cons]

@[simp] theorem predicateDocs_eq (e : Exclude) (ps : List Predicate) :
    predicateDocs e ps = ps.map (·.doc e false) := by
  induction ps with
  | nil => simp only [predicateDocs, List.map_nil]
  | cons p ps ih => simp only [predicateDocs, ih, List.map_cons]

@[simp] theorem cteDocs_eq (cs : List Cte) : cteDocs cs = cs.map Cte.doc := by
  induction cs with
  | nil => simp only [cteDocs, List.map_nil]
  | cons c cs ih => simp only [cteDocs, ih, List.map_cons]

@[simp] theorem sourceDocs_eq (ts : List TableSource) :
    sourceDocs ts = ts.map fun t => t.doc.named t.label := by
  induction ts with
  | nil => simp only [sourceDocs, List.map_nil]
  | cons t ts ih => simp only [sourceDocs, ih, List.map_cons]

@[simp] theorem joinDocs_eq (js : List Join) : joinDocs js = js.map Join.doc := by
  induction js with
  | nil => simp only [joinDocs, List.map_nil]
  | cons j js ih => simp only [joinDocs, ih, List.map_cons]

@[simp] theorem assignmentDocs_eq (e : Exclude) (as : List Assignment) :
    assignmentDocs e as = as.map (·.doc e) := by
  induction as with
  | nil => simp only [assignmentDocs, List.map_nil]
  | cons a as ih => simp only [assignmentDocs, ih, List.map_cons]

@[simp] theorem tupleDocs_eq (rs : List Tuple) : tupleDocs rs = rs.map Tuple.doc := by
  induction rs with
  | nil => simp only [tupleDocs, List.map_nil]
  | cons r rs ih => simp only [tupleDocs, ih, List.map_cons]

@[simp] theorem armDocs_eq (as : List Arm) : armDocs as = as.map Arm.doc := by
  induction as with
  | nil => simp only [armDocs, List.map_nil]
  | cons a as ih => simp only [armDocs, ih, List.map_cons]

/-! ## Groups -/

def isLoneGroup : List Predicate → Bool
  | [.group _ _ _] => true
  | _ => false

theorem exists_of_isLoneGroup {ms : List Predicate} (h : isLoneGroup ms = true) :
    ∃ c ns t, ms = [.group c ns t] := by
  match ms with
  | [.group c ns t] => exact ⟨c, ns, t, rfl⟩

@[simp] theorem groupDoc_nil (e : Exclude) (c : Connective) (w : Bool) :
    groupDoc e c w [] = .empty := by simp only [groupDoc]

@[simp] theorem groupDoc_lone (e : Exclude) (c : Connective) (w : Bool) (i : Connective)
    (ms : List Predicate) (t : Bool) :
    groupDoc e c w [.group i ms t] = groupDoc e i w ms := by simp only [groupDoc]

theorem groupDoc_of_not_lone {ms : List Predicate} (h : isLoneGroup ms = false) (hne : ms ≠ [])
    (e : Exclude) (c : Connective) (w : Bool) :
    groupDoc e c w ms = .joined c.separator (!w) (ms.map (·.doc e false)) := by
  cases ms with
  | nil => exact absurd rfl hne
  | cons p rest =>
      rw [groupDoc]
      · simp
      · rintro i ms t rfl rfl
        simp [isLoneGroup] at h

/-- Whatever the members of a group are, the text is that of the joined members, unless an inner
group takes the place of the outer one. -/
theorem render_groupDoc_of_not_lone {ms : List Predicate} (h : isLoneGroup ms = false)
    (e : Exclude) (c : Connective) (w : Bool) :
    (groupDoc e c w ms).render =
      Doc.joinParts c.separator (!w) (ms.map fun m => (m.doc e false).render) := by
  by_cases hne : ms = []
  · subst hne; simp [Doc.empty, Doc.joinParts]
  · rw [groupDoc_of_not_lone h hne, Doc.render_joined, List.map_map]
    rfl

namespace Predicate

def withFlag (flag : Bool) : Predicate → Predicate
  | .group c ms _ => .group c ms flag
  | p => p

/-- Whether a predicate is a group that is marked to stand without parentheses. -/
def flag : Predicate → Bool
  | .group _ _ t => t
  | _ => false

@[simp] theorem withFlag_flag (p : Predicate) : p.withFlag p.flag = p := by cases p <;> rfl

@[simp] theorem doc_group (e : Exclude) (w : Bool) (c : Connective) (ms : List Predicate)
    (t : Bool) : (group c ms t).doc e w = groupDoc e c (w || t) ms := by simp only [Predicate.doc]

/-- The mark of a predicate only says that it may stand as a whole. -/
theorem doc_withFlag (e : Exclude) (w b : Bool) (p : Predicate) :
    (p.withFlag b).doc e w = (p.withFlag false).doc e (w || (p.withFlag b).flag) := by
  cases p <;> simp [withFlag, flag]

theorem doc_eq_doc_withFlag (p : Predicate) (e : Exclude) (w : Bool) :
    p.doc e w = (p.withFlag false).doc e (w || p.flag) := by
  have h := doc_withFlag e w p.flag p
  rwa [withFlag_flag] at h

theorem doc_eq_doc_false {p : Predicate} (h : ∀ c ms t, p ≠ .group c ms t) (e : Exclude)
    (w : Bool) : p.doc e w = p.doc e false := by
  cases p with
  | group c ms t => exact absurd rfl (h c ms t)
  | _ => simp only [Predicate.doc]

end Predicate

/-! ## Conditions of statements -/

/-- The conditions of a `WHERE` clause stand in that clause and nowhere else. -/
theorem Select.doc_filters (s : Select) : ∃ before after, ∀ ps,
    ({ s with filters := ps } : Select).doc =
      .clauses (before ++ .keyword "WHERE" (groupDoc .none .and true ps) :: after) := by
  cases s
  simp only [Select.doc]
  exact ⟨[_, _, _, _], _, fun ps => rfl⟩

theorem Select.doc_having (s : Select) : ∃ before after, ∀ ps,
    ({ s with having := ps } : Select).doc =
      .clauses (before ++ .keyword "HAVING" (groupDoc .none .and true ps) :: after) := by
  cases s
  simp only [Select.doc]
  exact ⟨[_, _, _, _, _, _], _, fun ps => rfl⟩

theorem Update.doc_filters (s : Update) : ∃ before after, ∀ ps,
    ({ s with filters := ps } : Update).doc =
      .clauses (before ++ .keyword "WHERE" (groupDoc .none .and true ps) :: after) := by
  cases s
  simp only [Update.doc]
  exact ⟨[_, _, _, _], _, fun ps => rfl⟩

theorem Delete.doc_filters (s : Delete) : ∃ before after, ∀ ps,
    ({ s with filters := ps } : Delete).doc =
      .clauses (before ++ .keyword "WHERE" (groupDoc .none .and true ps) :: after) := by
  cases s
  simp only [Delete.doc]
  exact ⟨[_, _, _], _, fun ps => rfl⟩

theorem Join.doc_conditions {j : Join} (h : j.kind ≠ .cross) : ∃ target, ∀ ps,
    ({ j with conditions := ps } : Join).doc =
      .follow target (.enclosed " ON " "" (groupDoc .none .and true ps)) := by
  cases j
  simp only [Join.doc]
  exact ⟨_, fun ps => by rw [if_neg h]⟩

theorem ConflictTarget.doc_filters (fields : List Field) (target : Exclude) : ∃ columns, ∀ ps,
    (ConflictTarget.columns fields ps).doc target =
      .follow columns (.enclosed " WHERE " "" (groupDoc target .and true ps)) := by
  simp only [ConflictTarget.doc]
  exact ⟨_, fun ps => rfl⟩

theorem ConflictAction.doc_filters {assignments : List Assignment} (h : assignments ≠ [])
    (target : Exclude) : ∃ before, ∀ ps, (ConflictAction.update assignments ps).doc target =
      .seq (before ++ [.enclosed " WHERE " "" (groupDoc .none .and true ps)]) := by
  cases assignments with
  | nil => exact absurd rfl h
  | cons a rest =>
      simp only [ConflictAction.doc]
      exact ⟨[_, _], fun ps => rfl⟩

/-! ## Statements -/

/-- No statement is without text. -/
theorem Query.doc_not_vanishes : (q : Query) → q.doc.vanishes = false
  | .select s => by cases s; simp [Query.doc, Select.doc]
  | .insert s => by cases s; simp [Query.doc, Insert.doc]
  | .update s => by cases s; simp [Query.doc, Update.doc]
  | .delete s => by cases s; simp [Query.doc, Delete.doc]
  | .setOperation ⟨head, _, _, _, _, _, _, _⟩ => by
      simp [Query.doc, SetOperation.doc, Query.doc_not_vanishes head]

theorem Query.doc_labelled (label : String) (q : Query) : (q.labelled label).doc = q.doc := by
  cases q with
  | select s => cases s; simp only [Query.labelled, Query.doc, Select.doc]
  | insert s => cases s; simp only [Query.labelled, Query.doc, Insert.doc]
  | update s => cases s; simp only [Query.labelled, Query.doc, Update.doc]
  | delete s => cases s; simp only [Query.labelled, Query.doc, Delete.doc]
  | setOperation s => cases s; simp only [Query.labelled, Query.doc, SetOperation.doc]

theorem Query.label_labelled (label : String) (q : Query) :
    (q.labelled label).label = some label := by
  cases q <;> rfl

end SqlCompose
