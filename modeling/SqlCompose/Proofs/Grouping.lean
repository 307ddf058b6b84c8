import SqlCompose.Select
import SqlCompose.SetOperation
import SqlCompose.Proofs.Infix
import SqlCompose.Proofs.Layout

/-!
# How combined statements are grouped

The statements of a chain are written one after another, each in parentheses, with the operators
between them. SQL reads `INTERSECT` more tightly than `UNION` and `EXCEPT`, and operators of one
strength from the left. The main statement says what a chain is read as, and for which chains that
is the grouping that the chain was built with.
-/

namespace SqlCompose

/-- The operators that bind more tightly. -/
def SetOperator.tight : SetOperator → Bool
  | .intersect => true
  | .intersectAll => true
  | _ => false

def SetOperator.between (o : SetOperator) : String := " " ++ o.words ++ " "

namespace SetOperation

abbrev Word := Infix.Token Query SetOperator

/-- Which statements are combined with which. -/
abbrev Combination := Infix.Term Query SetOperator

def spell (ts : List Word) : Fragment := Infix.spell Query.body SetOperator.between ts

/-- A combination with more statements, each of which is combined with all before it. -/
def chained (t : Combination) (arms : List Arm) : Combination :=
  arms.foldl (fun t a => .node a.operator t (.leaf a.query)) t

/-- The combination that a chain was built as. -/
def built (s : SetOperation) : Combination := chained (.leaf s.head) s.arms

def operandWords (q : Query) : List Word := [.opening, .leaf q, .closing]

def armWords (a : Arm) : List Word := .op a.operator :: operandWords a.query

def words (s : SetOperation) : List Word := operandWords s.head ++ s.arms.flatMap armWords

/-- The document of the statements of a chain, without order and limit. -/
def armsDoc (s : SetOperation) : Doc := .seq (.parens s.head.doc :: s.arms.map Arm.doc)

/-! ## Text -/

theorem render_parens_doc (q : Query) : (Doc.parens q.doc).render = spell (operandWords q) := by
  rw [Doc.parens, Doc.enclosed, Doc.render_framed q.doc_not_vanishes, Doc.render_text,
    Doc.render_text, Fragment.ident_eq_raw (by simp), Fragment.ident_eq_raw (by simp)]
  simp [spell, operandWords, Infix.Token.spell, Query.body]

theorem render_armDoc (a : Arm) : a.doc.render = spell (armWords a) := by
  cases a with
  | mk o q =>
      have ho : '?' ∉ (" " ++ o.words ++ " (").toList := by cases o <;> decide
      have hb : " " ++ o.words ++ " (" = o.between ++ "(" := by
        simp only [SetOperator.between, String.append_assoc]
        rfl
      simp only [Arm.doc]
      rw [Doc.enclosed, Doc.render_framed q.doc_not_vanishes, Doc.render_text, Doc.render_text,
        Fragment.ident_eq_raw ho, Fragment.ident_eq_raw (by simp), hb, Fragment.raw_append]
      simp [spell, armWords, operandWords, Infix.Token.spell, Query.body, Fragment.append_assoc]

theorem render_armsDoc (s : SetOperation) : s.armsDoc.render = spell s.words := by
  have harms (arms : List Arm) :
      Fragment.concat ((arms.map Arm.doc).map Doc.render) = spell (arms.flatMap armWords) := by
    induction arms with
    | nil => rfl
    | cons a arms ih => simp_all [render_armDoc, spell]
  rw [armsDoc, Doc.render_seq, List.map_cons, Fragment.concat_cons, render_parens_doc, harms, words]
  simp [spell]

/-! ## Reading -/

/-- How the rules of SQL group a row of statements: `outer` is what stands before the last loose
operator, `t` what stands after it. -/
def grouped : Option (Combination × SetOperator) → Combination → List Arm → Combination
  | outer, t, [] => t.after outer
  | outer, t, a :: rest =>
    if a.operator.tight then grouped outer (.node a.operator t (.leaf a.query)) rest
    else grouped (some (t.after outer, a.operator)) (.leaf a.query) rest

/-- What some words are read as, when more operators may come. -/
inductive HalfRead : List Word → Option (Combination × SetOperator) → Combination → Prop where
  | first {ts t} : Infix.Reads SetOperator.tight .tight ts t → HalfRead ts none t
  | later {us vs s t o} : Infix.Reads SetOperator.tight .loose us s → o.tight = false →
      Infix.Reads SetOperator.tight .tight vs t → HalfRead (us ++ .op o :: vs) (some (s, o)) t

theorem HalfRead.reads {ts outer t} (h : HalfRead ts outer t) :
    Infix.Reads SetOperator.tight .loose ts (t.after outer) := by
  cases h with
  | first h => exact .ofTight h
  | later hs ho ht => exact hs.loose _ ho ht

theorem reads_operandWords (q : Query) :
    Infix.Reads SetOperator.tight .operand (operandWords q) (.leaf q) :=
  .parens (Infix.Reads.leaf q).alone

theorem HalfRead.extend {ts outer t} (h : HalfRead ts outer t) (arms : List Arm) :
    Infix.Reads SetOperator.tight .loose (ts ++ arms.flatMap armWords) (grouped outer t arms) := by
  induction arms generalizing ts outer t with
  | nil => simpa [grouped] using h.reads
  | cons a arms ih =>
      have hq := reads_operandWords a.query
      rw [List.flatMap_cons, ← List.append_assoc, grouped]
      cases ha : a.operator.tight with
      | true =>
          rw [if_pos rfl]
          cases h with
          | first h => exact ih (.first (h.tight _ ha hq))
          | later hs ho ht =>
              have := ih (.later hs ho (ht.tight _ ha hq))
              simpa [armWords] using this
      | false =>
          rw [if_neg (by simp)]
          exact ih (.later h.reads ha (.ofOperand hq))

theorem reads_words_iff (s : SetOperation) (u : Combination) :
    Infix.Reads SetOperator.tight .loose s.words u ↔ u = grouped none (.leaf s.head) s.arms := by
  have h : Infix.Reads SetOperator.tight .loose s.words (grouped none (.leaf s.head) s.arms) :=
    (HalfRead.first (.ofOperand (reads_operandWords s.head))).extend s.arms
  exact ⟨fun hu => hu.unique h, fun hu => hu ▸ h⟩

theorem leaves_grouped (outer : Option (Combination × SetOperator)) (t : Combination)
    (arms : List Arm) :
    (grouped outer t arms).leaves = (t.after outer).leaves ++ arms.map (·.query) := by
  induction arms generalizing outer t with
  | nil => simp [grouped]
  | cons a arms ih =>
      rw [grouped]
      split
      · cases outer <;> simp [ih, Infix.Term.after, Infix.Term.leaves]
      · simp [ih, Infix.Term.after, Infix.Term.leaves]

/-! ## Left-nested chains -/

/-- A tight operator stands only after tight ones. -/
def TightFirst (arms : List Arm) : Prop :=
  arms.Pairwise fun a b => b.operator.tight = true → a.operator.tight = true

theorem grouped_of_loose {arms : List Arm} (h : ∀ a ∈ arms, a.operator.tight = false)
    (outer : Option (Combination × SetOperator)) (t : Combination) :
    grouped outer t arms = chained (t.after outer) arms := by
  induction arms generalizing outer t with
  | nil => rfl
  | cons a arms ih =>
      obtain ⟨ha, hrest⟩ := List.forall_mem_cons.mp h
      rw [grouped, if_neg (by simp [ha]), ih hrest]
      rfl

theorem grouped_of_tightFirst {arms : List Arm} (h : TightFirst arms) (t : Combination) :
    grouped none t arms = chained t arms := by
  induction arms generalizing t with
  | nil => rfl
  | cons a arms ih =>
      obtain ⟨hhead, hrest⟩ := List.pairwise_cons.mp h
      rw [grouped]
      split
      · exact ih hrest _
      · rename_i ha
        have hloose : ∀ b ∈ arms, b.operator.tight = false := by
          intro b hb
          simpa using mt (hhead b hb) ha
        rw [grouped_of_loose hloose]
        rfl

/-- The number of operators on the left side of a combination. -/
def depth : Combination → Nat
  | .node _ l _ => depth l + 1
  | _ => 0

theorem depth_chained (t : Combination) (arms : List Arm) :
    depth (chained t arms) = depth t + arms.length := by
  induction arms generalizing t with
  | nil => rfl
  | cons a arms ih =>
      have := ih (.node a.operator t (.leaf a.query))
      simp only [chained, List.foldl_cons, List.length_cons, depth] at this ⊢
      omega

theorem depth_grouped (s : Combination) (o : SetOperator) (t : Combination) (arms : List Arm) :
    depth (grouped (some (s, o)) t arms) =
      depth s + 1 + arms.countP fun a => !a.operator.tight := by
  induction arms generalizing s o t with
  | nil => rfl
  | cons a arms ih =>
      rw [grouped]
      cases ha : a.operator.tight with
      | true => simp [ih, ha]
      | false => simp [ih, ha, Infix.Term.after, depth]; omega

theorem tightFirst_of_grouped {arms : List Arm} {t : Combination}
    (h : grouped none t arms = chained t arms) : TightFirst arms := by
  induction arms generalizing t with
  | nil => exact .nil
  | cons a arms ih =>
      rw [grouped] at h
      cases ha : a.operator.tight with
      | true =>
          rw [ha, if_pos rfl] at h
          exact .cons (fun b _ _ => ha) (ih h)
      | false =>
          -- every operator of the built chain adds to its left side, and a tight one after a loose
          -- one does not add to what is read
          have hdepth := congrArg depth h
          rw [ha, if_neg (by simp), depth_grouped, depth_chained] at hdepth
          have hloose : ∀ b ∈ arms, b.operator.tight = false := by
            have : arms.countP (fun a => !a.operator.tight) = arms.length := by
              simp only [Infix.Term.after, List.length_cons] at hdepth
              omega
            simpa using List.countP_eq_length.mp this
          refine .cons (fun b hb hbt => ?_) ?_
          · simp [hloose b hb] at hbt
          · exact List.pairwise_of_forall_mem_list fun b _ c hc hct => by simp [hloose c hc] at hct

/-- SQL reads a chain in one way, with every statement once and in order, but as the chain was built
only if no `INTERSECT` stands after a `UNION` or an `EXCEPT`. -/
theorem chain_read_as_built_iff (s : SetOperation) :
    (∀ q, (start q).built = .leaf q) ∧
    (∀ o q, (s.combine o q).built = .node o s.built (.leaf q)) ∧
    (∃ clauses, s.doc = .clauses (s.armsDoc :: clauses)) ∧
    s.armsDoc.render = spell s.words ∧
    ∃ t, (∀ u, Infix.Reads SetOperator.tight .loose s.words u ↔ u = t) ∧
      t.leaves = s.head :: s.arms.map (·.query) ∧ (t = s.built ↔ TightFirst s.arms) := by
  refine ⟨fun q => rfl, fun o q => ?_, ?_, render_armsDoc s, ?_⟩
  · simp [built, chained, combine]
  · cases s
    simp only [SetOperation.doc, armDocs_eq]
    exact ⟨_, rfl⟩
  · refine ⟨grouped none (.leaf s.head) s.arms, reads_words_iff s, ?_, ?_⟩
    · rw [leaves_grouped]
      rfl
    · exact ⟨tightFirst_of_grouped, fun h => grouped_of_tightFirst h _⟩

def selection (name : String) : Query :=
  .select ((Select.new.run ⟨[]⟩).1.columns [.raw name])

def unionThenIntersect : SetOperation :=
  ((start (selection "a")).combine .union (selection "b")).combine .intersect (selection "c")

theorem union_intersect_not_read_as_built :
    unionThenIntersect.armsDoc.sql = "(SELECT a) UNION (SELECT b) INTERSECT (SELECT c)" ∧
    ¬ Infix.Reads SetOperator.tight .loose unionThenIntersect.words
      (.node .intersect (.node .union (.leaf (selection "a")) (.leaf (selection "b")))
        (.leaf (selection "c"))) ∧
    Infix.Reads SetOperator.tight .loose unionThenIntersect.words
      (.node .union (.leaf (selection "a"))
        (.node .intersect (.leaf (selection "b")) (.leaf (selection "c")))) := by
  refine ⟨rfl, ?_, ?_⟩
  · rw [reads_words_iff]
    simp [unionThenIntersect, start, combine, grouped, SetOperator.tight, Infix.Term.after]
  · rw [reads_words_iff]
    rfl

end SetOperation

end SqlCompose
