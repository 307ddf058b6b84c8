import SqlCompose.Proofs.Joins

/-!
# The order of clauses

The clauses of a statement, and with which words each of them begins. What is sent are the clauses
that have text, one after another, and the values of all of them in the same order.
-/

namespace SqlCompose

/-! ## Texts and values of clauses -/

namespace Fragment

theorem sql_joined (s : String) (fs : List Fragment) :
    (concat (fs.intersperse (raw s))).sql = s.intercalate (fs.map sql) := by
  induction fs with
  | nil => simp
  | cons f fs ih =>
      cases fs with
      | nil => simp
      | cons g fs =>
          rw [List.map_cons, List.map_cons, String.intercalate_cons_cons, ← List.map_cons, ← ih]
          simp [String.append_assoc]

theorem args_joined (s : String) (fs : List Fragment) :
    (concat (fs.intersperse (raw s))).args = fs.flatMap args := by
  induction fs with
  | nil => simp
  | cons f fs ih =>
      cases fs with
      | nil => simp
      | cons g fs =>
          rw [List.flatMap_cons, ← ih]
          simp

theorem args_parenthesized (f : Fragment) : f.parenthesized.args = f.args := by
  rw [parenthesized]
  split <;> rfl

end Fragment

namespace Doc

theorem sql_clauses (ds : List Doc) :
    (clauses ds).sql = " ".intercalate ((ds.map sql).filter (! ·.isEmpty)) := by
  have hsql : ds.map sql = (ds.map render).map Fragment.sql := by
    rw [List.map_map]
    rfl
  rw [hsql, List.filter_map, sql, render_clauses, Fragment.sql_joined, shown]
  rfl

theorem args_joined (s : String) (group : Bool) (ds : List Doc) :
    (joined s group ds).render.args = ds.flatMap (·.render.args) := by
  have hshown : (shown ds).flatMap Fragment.args = ds.flatMap (·.render.args) := by
    induction ds with
    | nil => rfl
    | cons d ds ih =>
        rw [List.flatMap_cons, ← ih, shown, List.map_cons]
        cases hd : d.vanishes with
        | true => simp [shown, render_eq_empty d hd]
        | false =>
            rw [vanishes] at hd
            simp [shown, hd]
  rw [render_joined, joinParts_eq, ← hshown, ← Fragment.args_joined s]
  simp only [shown]
  split
  · exact Fragment.args_parenthesized _
  · rfl

theorem args_clauses (ds : List Doc) :
    (clauses ds).render.args = ds.flatMap (·.render.args) := args_joined " " false ds

/-! ## First words -/

/-- A document has no text or begins with one of several words. -/
def BeginsWith (words : List String) (d : Doc) : Prop :=
  d.vanishes = true ∨ ∃ w ∈ words, ∃ rest, d.render = (Fragment.raw w).append rest

variable {words : List String} {w : String}

theorem BeginsWith.follow {d : Doc} (h : d.BeginsWith words) (e : Doc) :
    (follow d e).BeginsWith words := by
  cases hd : d.vanishes with
  | true => exact .inl (by rw [vanishes_follow, hd])
  | false =>
      rcases h with hd' | ⟨w, hw, rest, hrender⟩
      · rw [hd] at hd'
        cases hd'
      · refine .inr ⟨w, hw, rest.append e.render, ?_⟩
        rw [Doc.follow, render_framed hd, hrender, render_eq_empty _ vanishes_empty,
          Fragment.empty_append, Fragment.append_assoc]

theorem beginsWith_enclosed {more : String} (hw : w ∈ words) (hmark : '?' ∉ (w ++ more).toList)
    (c : String) (d : Doc) : (enclosed (w ++ more) c d).BeginsWith words := by
  cases hd : d.vanishes with
  | true => exact .inl (by rw [vanishes_enclosed, hd])
  | false =>
      refine .inr ⟨w, hw, (Fragment.raw more).append (d.render.append (text c).render), ?_⟩
      rw [enclosed, render_framed hd, render_text (w ++ more), Fragment.ident_eq_raw hmark,
        Fragment.raw_append, Fragment.append_assoc]

theorem beginsWith_text (hw : w ∈ words) (hmark : '?' ∉ w.toList) (ds : List Doc) :
    (seq (text w :: ds)).BeginsWith words := by
  refine .inr ⟨w, hw, Fragment.concat (ds.map render), ?_⟩
  rw [render_seq, List.map_cons, Fragment.concat_cons, render_text, Fragment.ident_eq_raw hmark]

/-- Clauses begin with the first of them that has text. -/
theorem beginsWith_clauses {ds : List Doc} (h : ∀ d ∈ ds, d.BeginsWith words) :
    (clauses ds).BeginsWith words := by
  rw [BeginsWith, vanishes, render_clauses]
  cases hs : shown ds with
  | nil => exact .inl rfl
  | cons f fs =>
      have hf : f ∈ shown ds := by
        rw [hs]
        exact List.mem_cons_self
      obtain ⟨hmem, hne⟩ := List.mem_filter.mp hf
      obtain ⟨d, hd, rfl⟩ := List.mem_map.mp hmem
      rcases h d hd with hempty | ⟨w, hw, rest, hrender⟩
      · rw [vanishes] at hempty
        rw [hempty] at hne
        cases hne
      · refine .inr ⟨w, hw, ?_⟩
        rw [hrender]
        cases fs with
        | nil => exact ⟨rest, by simp⟩
        | cons g fs =>
            rw [List.intersperse_cons_cons, Fragment.concat_cons, Fragment.append_assoc]
            exact ⟨_, rfl⟩

end Doc

/-! ## Clauses of statements -/

/-- A clause and the words with which it may begin. -/
structure Clause where
  words : List String
  doc : Doc

namespace Clause

def keyword (word : String) (d : Doc) : Clause := ⟨[word], .keyword word d⟩

def head (word : String) (ds : List Doc) : Clause := ⟨[word], .seq (.text word :: ds)⟩

def joinKinds : List JoinKind := [.inner, .left, .right, .full, .cross]

def joins (d : Doc) : Clause := ⟨joinKinds.map JoinKind.words, d⟩

def lockStrengths : List LockStrength := [.update, .noKeyUpdate, .share, .keyShare]

def lock (l : Option Lock) : Clause := ⟨lockStrengths.map LockStrength.words, lockDoc l⟩

end Clause

def Select.clauses (s : Select) : List Clause :=
  [.keyword "WITH" (withDoc s.ctes (.list (cteDocs s.ctes))),
    .head "SELECT " [s.distinct.doc, .orElse (.list (projectionDocs s.projections)) (.text "*")],
    .keyword "FROM" (.list (sourceDocs s.sources)),
    .joins (.clauses (joinDocs s.joins)),
    .keyword "WHERE" (filterDoc s.filters),
    .keyword "GROUP BY" (.list (fieldDocs .none s.groupBy)),
    .keyword "HAVING" (filterDoc s.having),
    .keyword "ORDER BY" (.list (fieldDocs .none s.orderBy)),
    .keyword "LIMIT" (countDoc s.limit),
    .keyword "OFFSET" (countDoc s.offset),
    .lock s.lock]

/-- The joins of an update or a deletion, which stand only after a table. -/
def attachedJoins (sources : List TableSource) (joins : List Join) : Doc :=
  if (Doc.list (sourceDocs sources)).vanishes then .empty else .clauses (joinDocs joins)

def Update.clauses (s : Update) : List Clause :=
  [.keyword "WITH" (withDoc s.ctes (.list (cteDocs s.ctes))),
    .head "UPDATE " [s.target.sourceDoc],
    .keyword "SET" (.list (assignmentDocs ⟨[s.target.qualifier]⟩ s.assignments)),
    .keyword "FROM" (.list (sourceDocs s.sources)),
    .joins (attachedJoins s.sources s.joins),
    .keyword "WHERE" (filterDoc s.filters),
    .keyword "RETURNING" (.list (projectionDocs s.returning))]

def Delete.clauses (s : Delete) : List Clause :=
  [.keyword "WITH" (withDoc s.ctes (.list (cteDocs s.ctes))),
    .head "DELETE FROM " [s.target.sourceDoc],
    .keyword "USING" (.list (sourceDocs s.sources)),
    .joins (attachedJoins s.sources s.joins),
    .keyword "WHERE" (filterDoc s.filters),
    .keyword "RETURNING" (.list (projectionDocs s.returning))]

/-! ### First words of clauses -/

def Clause.Begins (c : Clause) : Prop := c.doc.BeginsWith c.words

namespace Clause

theorem begins_keyword {word : String} (h : '?' ∉ (word ++ " ").toList) (d : Doc) :
    (keyword word d).Begins :=
  Doc.beginsWith_enclosed List.mem_cons_self h "" d

theorem begins_head {word : String} (h : '?' ∉ word.toList) (ds : List Doc) :
    (head word ds).Begins :=
  Doc.beginsWith_text List.mem_cons_self h ds

theorem begins_joins (js : List Join) : (joins (.clauses (joinDocs js))).Begins := by
  rw [joinDocs_eq]
  refine Doc.beginsWith_clauses fun d hd => ?_
  obtain ⟨j, -, rfl⟩ := List.mem_map.mp hd
  cases j with
  | mk kind target conditions lateral =>
      have hkind : kind ∈ joinKinds := by cases kind <;> decide
      simp only [Join.doc]
      refine .follow (Doc.beginsWith_enclosed (List.mem_map_of_mem hkind) ?_ _ _) _
      cases kind <;> cases lateral <;> decide

theorem begins_attachedJoins (ts : List TableSource) (js : List Join) :
    (joins (attachedJoins ts js)).Begins := by
  rw [attachedJoins]
  split
  · exact .inl Doc.vanishes_empty
  · exact begins_joins js

theorem begins_lock (l : Option Lock) : (lock l).Begins := by
  cases l with
  | none => exact .inl Doc.vanishes_empty
  | some l =>
      have hstrength : l.strength ∈ lockStrengths := by cases l.strength <;> decide
      refine Doc.beginsWith_text (List.mem_map_of_mem hstrength) ?_ _
      cases l.strength <;> decide

end Clause

/-- Clauses at the end that have no text can be left out. -/
theorem Clause.shown_take {cs : List Clause} (n : Nat)
    (h : ∀ c ∈ cs.drop n, c.doc.vanishes = true) :
    Doc.shown (cs.map Clause.doc) = Doc.shown ((cs.take n).map Clause.doc) := by
  have hdropped : Doc.shown ((cs.drop n).map Clause.doc) = [] :=
    Doc.shown_eq_nil (List.forall_mem_map.mpr h)
  rw [← List.take_append_drop n (cs.map Clause.doc), Doc.shown_append, ← List.map_drop, hdropped,
    List.append_nil, List.map_take]

/-! ### Statements -/

/-- What is sent for a statement are its clauses, without those that have no text. -/
structure SentAs (q : Query) (cs : List Clause) : Prop where
  build : q.build = q.dialect.renumber
    ⟨" ".intercalate ((cs.map (·.doc.sql)).filter (! ·.isEmpty)), cs.flatMap (·.doc.render.args)⟩
  begins : ∀ c ∈ cs, c.Begins

theorem SentAs.of_render {q : Query} {cs : List Clause}
    (h : q.doc.render = (Doc.clauses (cs.map Clause.doc)).render) (hcs : ∀ c ∈ cs, c.Begins) :
    SentAs q cs := by
  have hsql := Doc.sql_clauses (cs.map Clause.doc)
  have hargs := Doc.args_clauses (cs.map Clause.doc)
  rw [Doc.sql, List.map_map] at hsql
  rw [List.flatMap_map] at hargs
  refine ⟨?_, hcs⟩
  rw [Query.build, Query.body, h]
  exact congrArg _ (Fragment.ext hsql hargs)

namespace Select

theorem render_clauses (s : Select) :
    (Query.select s).doc.render = (Doc.clauses (s.clauses.map Clause.doc)).render := by
  cases s
  simp only [Query.doc, Select.doc]
  rfl

theorem begins_clauses (s : Select) : ∀ c ∈ s.clauses, c.Begins := by
  simp only [Select.clauses, List.forall_mem_cons]
  exact ⟨Clause.begins_keyword (by decide) _, Clause.begins_head (by decide) _,
    Clause.begins_keyword (by decide) _, Clause.begins_joins s.joins,
    Clause.begins_keyword (by decide) _, Clause.begins_keyword (by decide) _,
    Clause.begins_keyword (by decide) _, Clause.begins_keyword (by decide) _,
    Clause.begins_keyword (by decide) _, Clause.begins_keyword (by decide) _,
    Clause.begins_lock s.lock, List.forall_mem_nil _⟩

theorem begins_clauses_set (s : Select) {c : Clause} (h : c.Begins) (i : Nat) :
    ∀ d ∈ s.clauses.set i c, d.Begins := by
  intro d hd
  rcases List.mem_or_eq_of_mem_set hd with hd | rfl
  · exact s.begins_clauses d hd
  · exact h

/-- Only what the clauses show is sent. -/
theorem sentAs_of_shown {s : Select} {cs : List Clause}
    (h : Doc.shown (s.clauses.map Clause.doc) = Doc.shown (cs.map Clause.doc))
    (hcs : ∀ c ∈ cs, c.Begins) : SentAs (.select s) cs := by
  refine .of_render ?_ hcs
  rw [render_clauses, Doc.render_clauses, Doc.render_clauses, h]

theorem sentAs_clauses (s : Select) : SentAs (.select s) s.clauses :=
  sentAs_of_shown rfl s.begins_clauses

end Select

/-- Joins that follow a table are a clause of their own. -/
theorem render_attachedJoins (before after : List Doc) (word : String) (ts : List TableSource)
    (js : List Join) :
    (Doc.clauses (before ++ .follow (.keyword word (.list (sourceDocs ts)))
      (.enclosed " " "" (.clauses (joinDocs js))) :: after)).render =
    (Doc.clauses (before ++ .keyword word (.list (sourceDocs ts)) ::
      attachedJoins ts js :: after)).render := by
  cases h : (Doc.list (sourceDocs ts)).vanishes with
  | false =>
      rw [attachedJoins, h, if_neg Bool.false_ne_true]
      exact Doc.render_clauses_follow (by rw [Doc.vanishes_keyword, h]) before after _
  | true =>
      have hnone : (Doc.follow (.keyword word (.list (sourceDocs ts)))
          (.enclosed " " "" (.clauses (joinDocs js)))).vanishes = true := by
        rw [Doc.vanishes_follow, Doc.vanishes_keyword, h]
      have hkeyword : (Doc.keyword word (.list (sourceDocs ts))).vanishes = true := by
        rw [Doc.vanishes_keyword, h]
      have hrest : Doc.shown (Doc.empty :: after) = Doc.shown after :=
        Doc.shown_of_vanishes Doc.vanishes_empty [] after
      rw [attachedJoins, h, if_pos rfl, Doc.render_clauses, Doc.render_clauses,
        Doc.shown_of_vanishes hnone, Doc.shown_of_vanishes hkeyword before (.empty :: after), hrest]

theorem Update.sentAs_clauses (s : Update) : SentAs (.update s) s.clauses := by
  refine .of_render ?_ ?_
  · cases s with
    | mk ctes target assignments sources joins filters returning label namer nested dialect =>
        simp only [Query.doc, Update.doc]
        exact render_attachedJoins [_, _, _] _ "FROM" sources joins
  · simp only [Update.clauses, List.forall_mem_cons]
    exact ⟨Clause.begins_keyword (by decide) _, Clause.begins_head (by decide) _,
      Clause.begins_keyword (by decide) _, Clause.begins_keyword (by decide) _,
      Clause.begins_attachedJoins s.sources s.joins, Clause.begins_keyword (by decide) _,
      Clause.begins_keyword (by decide) _, List.forall_mem_nil _⟩

theorem Delete.sentAs_clauses (s : Delete) : SentAs (.delete s) s.clauses := by
  refine .of_render ?_ ?_
  · cases s with
    | mk ctes target sources joins filters returning label namer nested dialect =>
        simp only [Query.doc, Delete.doc]
        exact render_attachedJoins [_, _] _ "USING" sources joins
  · simp only [Delete.clauses, List.forall_mem_cons]
    exact ⟨Clause.begins_keyword (by decide) _, Clause.begins_head (by decide) _,
      Clause.begins_keyword (by decide) _, Clause.begins_attachedJoins s.sources s.joins,
      Clause.begins_keyword (by decide) _, Clause.begins_keyword (by decide) _,
      List.forall_mem_nil _⟩

end SqlCompose
