import SqlCompose.Proofs.Operations

/-!
# Operands without text

What is computed from fields is written as words with the operands in between. An operand may come
to nothing, such as a template with an empty list. Conditions and rows of values write `NULL` in its
place; a computed field writes nothing there, and what is left is not an expression.
-/

namespace SqlCompose

/-! ## Computed fields -/

/-- The functions of one field that have a helper of their own. -/
inductive NamedFunction where
  | count
  | countDistinct
  | sum
  | avg
  | min
  | max
  | lower
  | upper
  deriving DecidableEq

def NamedFunction.apply : NamedFunction → Field → Field
  | .count => Function.count
  | .countDistinct => Function.countDistinct
  | .sum => Function.sum
  | .avg => Function.avg
  | .min => Function.min
  | .max => Function.max
  | .lower => Function.lower
  | .upper => Function.upper

/-- What stands before the operand. -/
def NamedFunction.opening : NamedFunction → String
  | .count => "COUNT("
  | .countDistinct => "COUNT(DISTINCT "
  | .sum => "SUM("
  | .avg => "AVG("
  | .min => "MIN("
  | .max => "MAX("
  | .lower => "LOWER("
  | .upper => "UPPER("

/-- What the operators and functions compute from fields of any kind. -/
inductive Computed where
  | field (f : Field)
  | arithmetic (op : Arithmetic) (lhs rhs : Computed)
  | link (op : Link) (lhs rhs : Computed)
  | collate (operand : Computed) (collation : String)
  | cast (operand : Computed) (sqlType : String) (type : FieldType)
  | function (name : NamedFunction) (operand : Computed)
  | call (name : String) (type : FieldType) (args : List Computed)
  | coalesce (args : List Computed)

/-- A computed field, or a condition on one. -/
inductive Expression where
  | computed (c : Computed)
  | eqAny (operand array : Computed)
  | inList (operand : Computed) (vs : List Value)

namespace Computed

mutual

/-- The field that the helpers build. -/
def toField : Computed → Field
  | .field f => f
  | .arithmetic op l r => op.apply l.toField r.toField
  | .link op l r => op.apply l.toField r.toField
  | .collate t collation => t.toField.collate collation
  | .cast t sqlType type => t.toField.cast sqlType type
  | .function name t => name.apply t.toField
  | .call name type args => Function.call name type (toFields args)
  | .coalesce args => Function.coalesce (toFields args)

def toFields : List Computed → List Field
  | [] => []
  | c :: cs => c.toField :: toFields cs

end

/-- A call around the documents of its arguments. -/
def callDoc (name : String) (args : List Doc) : Doc :=
  .seq [.text (name ++ "("), .seq (args.intersperse (.text ", ")), .text ")"]

mutual

/-- The words of a computed field and between them its operands, put in place by `put`. -/
def doc (put : Doc → Doc) (e : Exclude) : Computed → Doc
  | .field f => f.doc e
  | .arithmetic op l r =>
    .seq [.text "(", put (l.doc put e), .text (String.ofList [' ', op.sign, ' ']),
      put (r.doc put e), .text ")"]
  | .link op l r =>
    .seq [put (l.doc put e), .text (String.ofList op.sign), put (r.doc put e)]
  | .collate t collation => .seq [put (t.doc put e), .text (" COLLATE \"" ++ collation), .text "\""]
  | .cast t sqlType _ =>
    .seq [.text "CAST(", put (t.doc put e), .text (" AS " ++ sqlType), .text ")"]
  | .function name t => .seq [.text name.opening, put (t.doc put e), .text ")"]
  | .call name _ args => callDoc name (docs put e args)
  | .coalesce args => callDoc "COALESCE" (docs put e args)

def docs (put : Doc → Doc) (e : Exclude) : List Computed → List Doc
  | [] => []
  | c :: cs => put (c.doc put e) :: docs put e cs

end

mutual

/-- The fields at the bottom. -/
def leaves : Computed → List Field
  | .field f => [f]
  | .arithmetic _ l r => l.leaves ++ r.leaves
  | .link _ l r => l.leaves ++ r.leaves
  | .collate t _ => t.leaves
  | .cast t _ _ => t.leaves
  | .function _ t => t.leaves
  | .call _ _ args => allLeaves args
  | .coalesce args => allLeaves args

def allLeaves : List Computed → List Field
  | [] => []
  | c :: cs => c.leaves ++ allLeaves cs

end

/-- The fields that something is computed from, at any depth. -/
def operands : Computed → List Field
  | .field _ => []
  | c => c.leaves

end Computed

namespace Expression

/-- What is written for an expression. -/
def render (e : Exclude) : Expression → Fragment
  | .computed c => c.toField.render e
  | .eqAny c d => (c.toField.eqAny d.toField).render e
  | .inList c vs => (c.toField.inList vs).render e

/-- A condition on an empty list is none, whatever its operand. -/
def doc (put : Doc → Doc) (e : Exclude) : Expression → Doc
  | .computed c => c.doc put e
  | .eqAny c d => .seq [put (c.doc put e), .text " = ANY(", put (d.doc put e), .text ")"]
  | .inList c vs =>
    if vs.isEmpty then .empty
    else .seq [put (c.doc put e), .text " IN (", .list (vs.map .bind), .text ")"]

def operands : Expression → List Field
  | .computed c => c.operands
  | .eqAny c d => c.leaves ++ d.leaves
  | .inList c vs => if vs.isEmpty then [] else c.leaves

/-- What is written if `NULL` stands for every operand without text. -/
def filled (e : Exclude) (x : Expression) : Fragment := (x.doc .orNull e).render

end Expression

/-- How many fields have no text. -/
def blanks (e : Exclude) (fs : List Field) : Nat := fs.countP fun f => (f.render e).isEmpty

theorem blanks_append (e : Exclude) (fs gs : List Field) :
    blanks e (fs ++ gs) = blanks e fs + blanks e gs := List.countP_append

theorem blanks_eq_zero {e : Exclude} {fs : List Field} :
    blanks e fs = 0 ↔ ∀ f ∈ fs, (f.render e).isEmpty = false := by
  simp [blanks, List.countP_eq_zero]

/-! ## Texts with and without `NULL` -/

/-- A text with gaps, and what stands in each of them. -/
def gapped (gap : String) (ps : List (Option String)) : String :=
  String.join (ps.map (·.getD gap))

theorem gapped_cons (gap : String) (p : Option String) (ps : List (Option String)) :
    gapped gap (p :: ps) = p.getD gap ++ gapped gap ps := String.join_cons

theorem gapped_append (gap : String) (ps qs : List (Option String)) :
    gapped gap (ps ++ qs) = gapped gap ps ++ gapped gap qs := by
  rw [gapped, gapped, gapped, List.map_append, String.join_append]

/-- Without gaps it does not matter what stands in them. -/
theorem gapped_eq_of_count {ps : List (Option String)} (h : ps.count none = 0)
    (gap gap' : String) : gapped gap ps = gapped gap' ps := by
  refine congrArg String.join (List.map_congr_left fun p hp => ?_)
  cases p with
  | none => exact absurd hp (List.count_eq_zero.mp h)
  | some s => rfl

theorem length_gapped (gap : String) (ps : List (Option String)) :
    (gapped gap ps).length = (gapped "" ps).length + gap.length * ps.count none := by
  induction ps with
  | nil => rfl
  | cons p ps ih =>
      rw [gapped_cons, gapped_cons, String.length_append, String.length_append, ih]
      cases p with
      | none =>
          rw [List.count_cons_self, Nat.mul_succ, Option.getD_none, Option.getD_none,
            String.length_empty]
          omega
      | some s =>
          rw [List.count_cons_of_ne (Option.some_ne_none s), Option.getD_some, Option.getD_some, Nat.add_assoc]

/-- The second text is the first with `NULL` at `n` more places, and the values are the same. -/
structure Fills (n : Nat) (f g : Fragment) : Prop where
  args : g.args = f.args
  filled : ∃ ps : List (Option String), ps.count none = n ∧
    f.sql = gapped "" ps ∧ g.sql = gapped "NULL" ps

namespace Fills

variable {n m : Nat} {f g f' g' : Fragment} {d : Doc}

theorem refl (f : Fragment) : Fills 0 f f :=
  ⟨rfl, [some f.sql], rfl, by simp [gapped], by simp [gapped]⟩

theorem null : Fills 1 .empty (.ident "NULL") := ⟨rfl, [none], rfl, rfl, rfl⟩

theorem append (h : Fills n f g) (h' : Fills m f' g') :
    Fills (n + m) (f.append f') (g.append g') := by
  obtain ⟨hargs, ps, hps, hf, hg⟩ := h
  obtain ⟨hargs', qs, hqs, hf', hg'⟩ := h'
  refine ⟨?_, ps ++ qs, ?_, ?_, ?_⟩
  · rw [Fragment.args_append, Fragment.args_append, hargs, hargs']
  · rw [List.count_append, hps, hqs]
  · rw [Fragment.sql_append, gapped_append, hf, hf']
  · rw [Fragment.sql_append, gapped_append, hg, hg']

theorem length (h : Fills n f g) : g.sql.length = f.sql.length + 4 * n := by
  obtain ⟨ps, hps, hf, hg⟩ := h.filled
  rw [hf, hg, ← hps]
  exact length_gapped "NULL" ps

theorem same (h : Fills n f g) (hn : n = 0) : f = g := by
  obtain ⟨ps, hps, hf, hg⟩ := h.filled
  have hsql : f.sql = g.sql := by rw [hf, hg, gapped_eq_of_count (hps.trans hn)]
  exact congr (congrArg Fragment.mk hsql) h.args.symm

theorem before (s : String) (h : Fills n f g) :
    Fills n ((Fragment.ident s).append f) ((Fragment.ident s).append g) := by
  simpa using (refl (.ident s)).append h

theorem after (s : String) (h : Fills n f g) :
    Fills n (f.append (.ident s)) (g.append (.ident s)) := h.append (refl (.ident s))

theorem orNull (h : Fills n f d.render) (hd : d.vanishes = false) : Fills n f d.orNull.render := by
  rwa [Doc.orNull, Doc.render_orElse, hd, if_neg Bool.false_ne_true]

theorem eq_iff (h : Fills n f g) : f = g ↔ n = 0 := by
  refine ⟨fun heq => ?_, h.same⟩
  have hlength := h.length
  rw [heq] at hlength
  omega

end Fills

namespace Computed

/-! ### What the helpers write -/

theorem render_function (name : NamedFunction) (f : Field) (e : Exclude) :
    (name.apply f).render e =
      (Fragment.ident name.opening).append ((f.render e).append (.ident ")")) := by
  have called (name : String) (type : FieldType) : (Function.call name type [f]).render e =
      (Fragment.ident (name ++ "(")).append ((f.render e).append (.ident ")")) := by
    rw [Place.render_call]
    simp
  have hdistinct : (Template.doc "COUNT(DISTINCT ?)" [some (f.doc e)]).render =
      (Fragment.ident "COUNT(DISTINCT ").append ((f.render e).append (.ident ")")) :=
    Template.render_one_slot (fun _ => rfl) _
  cases name with
  | countDistinct =>
      rw [NamedFunction.apply, Function.countDistinct, Field.computed, Place.render_ofExpr,
        Expr.doc, argDocs_eq, List.map_singleton, Arg.doc?, hdistinct]
      rfl
  | _ => exact called _ _

theorem render_callDoc (name : String) (ds : List Doc) :
    (callDoc name ds).render = (Fragment.ident (name ++ "(")).append
      ((Fragment.concat ((ds.map Doc.render).intersperse (.ident ", "))).append (.ident ")")) := by
  have hlist : (ds.intersperse (.text ", ")).map Doc.render =
      (ds.map Doc.render).intersperse (.ident ", ") := by
    induction ds with
    | nil => rfl
    | cons d ds ih =>
        cases ds with
        | nil => rfl
        | cons d' ds =>
            rw [List.intersperse_cons_cons, List.map_cons, List.map_cons, ih, Doc.render_text]
            rfl
  simp [callDoc, hlist]

mutual

/-- The helpers put operands in their places as they are. -/
theorem render_toField (e : Exclude) : (c : Computed) → (c.doc id e).render = c.toField.render e
  | .field f => by rw [doc, toField, Field.render]
  | .arithmetic op l r => by
      rw [doc, toField, Operation.render_arithmetic, ← render_toField e l, ← render_toField e r]
      simp
  | .link op l r => by
      rw [doc, toField, Operation.render_link, ← render_toField e l, ← render_toField e r]
      simp
  | .collate t collation => by
      have ht : (t.toField.doc e).render = t.toField.render e := rfl
      rw [doc, toField, Place.render_collate, ht, ← render_toField e t]
      simp
  | .cast t sqlType type => by
      have ht : (t.toField.doc e).render = t.toField.render e := rfl
      rw [doc, toField, Place.render_cast, ht, ← render_toField e t]
      simp [Fragment.append_assoc]
  | .function name t => by
      rw [doc, toField, render_function, ← render_toField e t]
      simp
  | .call name type args => by
      rw [doc, toField, Place.render_call, ← render_toFields e args, render_callDoc]
  | .coalesce args => by
      rw [doc, toField, Function.coalesce, Place.render_call, ← render_toFields e args,
        render_callDoc]

theorem render_toFields (e : Exclude) : (cs : List Computed) →
    (docs id e cs).map Doc.render = (toFields cs).map (·.render e)
  | [] => by rw [docs, toFields]; rfl
  | c :: cs => by
      rw [docs, toFields, List.map_cons, List.map_cons, render_toFields e cs, id,
        render_toField e c]

end

/-! ### Without operands -/

/-- Whatever is computed has text, for it has words of its own. -/
theorem cases_operands (c : Computed) :
    (∃ f, c = .field f) ∨
      c.operands = c.leaves ∧ ∀ put e, (c.doc put e).vanishes = false := by
  cases c with
  | field f => exact .inl ⟨f, rfl⟩
  | arithmetic op l r => exact .inr ⟨rfl, fun put e => by simp [doc]⟩
  | link op l r => exact .inr ⟨rfl, fun put e => by cases op <;> simp [doc, Link.sign]⟩
  | collate t collation => exact .inr ⟨rfl, fun put e => by simp [doc]⟩
  | cast t sqlType type => exact .inr ⟨rfl, fun put e => by simp [doc]⟩
  | function name t => exact .inr ⟨rfl, fun put e => by simp [doc]⟩
  | call name type args => exact .inr ⟨rfl, fun put e => by simp [doc, callDoc]⟩
  | coalesce args => exact .inr ⟨rfl, fun put e => by simp [doc, callDoc]⟩

/-! ### With `NULL` -/

theorem fills_field (e : Exclude) (f : Field) :
    Fills (blanks e [f]) (f.doc e).render (f.doc e).orNull.render := by
  have hrender : f.render e = (f.doc e).render := rfl
  cases h : (f.doc e).vanishes with
  | false =>
      have hblanks : blanks e [f] = 0 := by
        rw [blanks_eq_zero]
        exact List.forall_mem_singleton.mpr h
      rw [hblanks]
      exact (Fills.refl _).orNull h
  | true =>
      have hempty := Doc.render_eq_empty _ h
      have hblanks : blanks e [f] = 1 := by simp [blanks, hrender, hempty]
      rw [hblanks, Doc.orNull, Doc.render_orElse, if_pos h, hempty]
      exact Fills.null

mutual

/-- With `NULL` for what has no text, an operand differs from what is written by one `NULL` for each
of its fields without text. -/
theorem fills (e : Exclude) : (c : Computed) →
    Fills (blanks e c.leaves) (c.doc id e).render (c.doc .orNull e).orNull.render
  | .field f => by
      simp only [doc, leaves]
      exact fills_field e f
  | .arithmetic op l r => by
      -- the whole has words of its own, so as an operand it is never replaced itself
      have h := ((fills e l).append (((fills e r).after ")").before
        (String.ofList [' ', op.sign, ' ']))).before "("
      refine .orNull ?_ (by simp [doc])
      simpa [doc, leaves, blanks_append] using h
  | .link op l r => by
      have h := (fills e l).append ((fills e r).before (String.ofList op.sign))
      refine .orNull ?_ (by cases op <;> simp [doc, Link.sign])
      simpa [doc, leaves, blanks_append] using h
  | .collate t collation => by
      have h := ((fills e t).after (" COLLATE \"" ++ collation)).after "\""
      refine .orNull ?_ (by simp [doc])
      simpa [doc, leaves, Fragment.append_assoc] using h
  | .cast t sqlType _ => by
      have h := (((fills e t).after (" AS " ++ sqlType)).after ")").before "CAST("
      refine .orNull ?_ (by simp [doc])
      simpa [doc, leaves, Fragment.append_assoc] using h
  | .function name t => by
      have h := ((fills e t).after ")").before name.opening
      refine .orNull ?_ (by simp [doc])
      simpa [doc, leaves, Fragment.append_assoc] using h
  | .call name _ args => by
      have h := ((fillsAll e args).after ")").before (name ++ "(")
      refine .orNull ?_ (by simp [doc, callDoc])
      rw [doc, doc, render_callDoc, render_callDoc, leaves]
      exact h
  | .coalesce args => by
      have h := ((fillsAll e args).after ")").before ("COALESCE" ++ "(")
      refine .orNull ?_ (by simp [doc, callDoc])
      rw [doc, doc, render_callDoc, render_callDoc, leaves]
      exact h

theorem fillsAll (e : Exclude) : (cs : List Computed) →
    Fills (blanks e (allLeaves cs))
      (.concat (((docs id e cs).map Doc.render).intersperse (.ident ", ")))
      (.concat (((docs .orNull e cs).map Doc.render).intersperse (.ident ", ")))
  | [] => by
      simp only [docs, allLeaves]
      exact Fills.refl _
  | [c] => by
      simpa [docs, allLeaves] using fills e c
  | c :: c' :: cs => by
      have h := (fills e c).append ((fillsAll e (c' :: cs)).before ", ")
      rw [allLeaves, blanks_append]
      simpa [docs] using h

end

end Computed

namespace Expression

theorem render_eqAny (c d : Computed) (e : Exclude) :
    (eqAny c d).render e = ((eqAny c d).doc id e).render := by
  have hslots : (Template.doc "? = ANY(?)" [some (c.toField.doc e), some (d.toField.doc e)]).render =
      (Fragment.ident "").append ((c.toField.render e).append
        ((Fragment.ident " = ANY(").append ((d.toField.render e).append (.ident ")")))) :=
    Template.render_two_slots (fun _ _ => rfl) _ _
  simp only [render, Field.eqAny, Predicate.render, Predicate.doc, argDocs_eq, List.map_cons,
    List.map_nil, Arg.doc?, hslots]
  simp [doc, Computed.render_toField]

theorem render_inList (c : Computed) (vs : List Value) (e : Exclude) :
    (inList c vs).render e = ((inList c vs).doc id e).render := by
  have hslots : (Template.doc "? IN (?)"
        [some (c.toField.doc e), some (.list (vs.map .bind))]).render =
      (Fragment.ident "").append ((c.toField.render e).append
        ((Fragment.ident " IN (").append ((Doc.list (vs.map .bind)).render.append (.ident ")")))) :=
    Template.render_two_slots (fun _ _ => rfl) _ _
  have hnone : Template.doc "? IN (?)" [some (c.toField.doc e), none] = .empty := rfl
  simp only [render, Field.inList, Predicate.render, Predicate.doc, argDocs_eq, List.map_cons,
    List.map_nil, Arg.doc?, doc]
  cases hvs : vs.isEmpty with
  | true => simp only [if_pos, hnone]
  | false =>
      rw [if_neg Bool.false_ne_true, if_neg Bool.false_ne_true, hslots]
      simp [Computed.render_toField]

/-- `NULL` for what has no text is all that is missing. -/
theorem fills (e : Exclude) (x : Expression) :
    Fills (blanks e x.operands) (x.render e) (x.filled e) := by
  cases x with
  | computed c =>
      have hwritten : (Expression.computed c).render e = (c.doc id e).render :=
        (Computed.render_toField e c).symm
      rw [hwritten]
      rcases c.cases_operands with ⟨f, rfl⟩ | ⟨hoperands, htext⟩
      · exact Fills.refl _
      · have h := c.fills e
        rwa [Doc.orNull, Doc.render_orElse, htext, if_neg Bool.false_ne_true, ← hoperands] at h
  | eqAny c d =>
      have h := (c.fills e).append (((d.fills e).after ")").before " = ANY(")
      rw [render_eqAny]
      simpa [filled, doc, operands, blanks_append] using h
  | inList c vs =>
      rw [render_inList]
      cases hvs : vs.isEmpty with
      | true => simpa [filled, doc, operands, hvs, blanks] using Fills.refl _
      | false =>
          have h := ((c.fills e).after " IN (").append
            ((Fills.refl (Doc.list (vs.map .bind)).render).after ")")
          simpa [filled, doc, operands, hvs, Fragment.append_assoc] using h

/-- Only a field of no text, and a condition on an empty list, come to nothing as a whole. -/
theorem operands_of_isEmpty {x : Expression} {e : Exclude} (h : (x.render e).isEmpty = true) :
    x.operands = [] := by
  cases x with
  | computed c =>
      rcases c.cases_operands with ⟨f, rfl⟩ | ⟨-, htext⟩
      · rfl
      · rw [render, ← Computed.render_toField] at h
        exact absurd h (Bool.eq_false_iff.mp (htext id e))
  | eqAny c d =>
      rw [render_eqAny] at h
      simp [doc] at h
  | inList c vs =>
      rw [render_inList] at h
      cases hvs : vs.isEmpty with
      | true => simp [operands, hvs]
      | false => simp [doc, hvs] at h

/-- When an expression has `NULL` in the place of every operand without text, or comes to nothing
itself: only if every operand has text. Otherwise all that is missing from the text are these
`NULL`s, one for each operand without text, at whatever depth it stands. -/
theorem operands_filled_iff (e : Exclude) (x : Expression) :
    Fills (blanks e x.operands) (x.render e) (x.filled e) ∧
    ((x.render e).isEmpty = true ∨ x.render e = x.filled e ↔
      ∀ f ∈ x.operands, (f.render e).isEmpty = false) := by
  refine ⟨x.fills e, ?_⟩
  rw [(x.fills e).eq_iff, blanks_eq_zero]
  constructor
  · rintro (hempty | htext)
    · rw [operands_of_isEmpty hempty]
      exact List.forall_mem_nil _
    · exact htext
  · exact .inr

/-- A template that comes to nothing, as its list does. -/
def nothing : Field := .custom "ANY(?)" [.list []]

def column : Computed := .field (.column "a" .number)

def sumWithNothing : Expression := .computed (.arithmetic .add column (.field nothing))

/-- A sum with nothing is left with a sign that has no right side. A condition, a row of values and
a template with too few arguments have `NULL` there. -/
theorem operand_without_text :
    (nothing.render .none).isEmpty = true ∧
    (sumWithNothing.render .none).sql = "(a + )" ∧
    (sumWithNothing.filled .none).sql = "(a + NULL)" ∧
    ¬ ((sumWithNothing.render .none).isEmpty = true ∨
      sumWithNothing.render .none = sumWithNothing.filled .none) ∧
    ((Expression.computed (.link .jsonGet (.field nothing) column)).render .none).sql = "->a" ∧
    ((Expression.computed (.coalesce [column, .field nothing])).render .none).sql =
      "COALESCE(a, )" ∧
    ((Expression.computed (.function .max (.field nothing))).render .none).sql = "MAX()" ∧
    ((nothing.eq nothing).render .none).sql = "NULL = NULL" ∧
    (Tuple.mk [nothing]).doc.sql = "(NULL)" ∧
    (Template.doc "(? + ?)" [some (.text "a")]).sql = "(a + NULL)" := by
  have hwritten : (sumWithNothing.render .none).sql = "(a + )" := by rfl
  have hfilled : (sumWithNothing.filled .none).sql = "(a + NULL)" := by rfl
  refine ⟨by rfl, hwritten, hfilled, ?_, by rfl, by rfl, by rfl, by rfl, by rfl, by rfl⟩
  rintro (hempty | hsame)
  · rw [Fragment.isEmpty, hwritten] at hempty
    simp at hempty
  · rw [hsame, hfilled] at hwritten
    simp at hwritten

end Expression

end SqlCompose
