import SqlCompose.Proofs.Rendering

/-!
# Reading infix text

SQL reads conditions and combined statements by the same rules: operators stand between operands,
some bind more tightly than others, operators of one strength associate to the left, a negation
belongs to the operand after it, and parentheses enclose an operand. These rules read a row of
tokens in at most one way.
-/

namespace SqlCompose.Infix

variable {ι ο : Type}

inductive Token (ι ο : Type) where
  | leaf (i : ι)
  | op (o : ο)
  | not
  | opening
  | closing

/-- What infix text says, without parentheses. -/
inductive Term (ι ο : Type) where
  | leaf (i : ι)
  | node (o : ο) (l r : Term ι ο)
  | not (t : Term ι ο)

/-- What may stand next to an operator. -/
inductive Strength where
  | operand
  | tight
  | loose

/-- The rules by which a row of tokens is read. -/
inductive Reads (tight : ο → Bool) : Strength → List (Token ι ο) → Term ι ο → Prop where
  | leaf (i : ι) : Reads tight .operand [.leaf i] (.leaf i)
  | parens {ts t} : Reads tight .loose ts t →
      Reads tight .operand (.opening :: ts ++ [.closing]) t
  | not {ts t} : Reads tight .operand ts t → Reads tight .operand (.not :: ts) (.not t)
  | ofOperand {ts t} : Reads tight .operand ts t → Reads tight .tight ts t
  | tight {ts us t u} (o : ο) : tight o = true → Reads tight .tight ts t →
      Reads tight .operand us u → Reads tight .tight (ts ++ .op o :: us) (.node o t u)
  | ofTight {ts t} : Reads tight .tight ts t → Reads tight .loose ts t
  | loose {ts us t u} (o : ο) : tight o = false → Reads tight .loose ts t →
      Reads tight .tight us u → Reads tight .loose (ts ++ .op o :: us) (.node o t u)

namespace Term

def leaves : Term ι ο → List ι
  | .leaf i => [i]
  | .node _ l r => l.leaves ++ r.leaves
  | .not t => t.leaves

/-- The value of a term under a meaning of its operands, operators and negations. -/
def eval {α : Type} (op : ο → α → α → α) (neg : α → α) (σ : ι → α) : Term ι ο → α
  | .leaf i => σ i
  | .node o l r => op o (l.eval op neg σ) (r.eval op neg σ)
  | .not t => neg (t.eval op neg σ)

theorem leaves_ne_nil (t : Term ι ο) : t.leaves ≠ [] := by
  induction t with
  | leaf i => simp [leaves]
  | node o l r ihl ihr => simp [leaves, ihl]
  | not t ih => exact ih

theorem leaves_foldl {β : Type} (o : ο) (f : β → Term ι ο) (rest : List β) (t : Term ι ο) :
    (rest.foldl (fun t b => .node o t (f b)) t).leaves =
      t.leaves ++ rest.flatMap fun b => (f b).leaves := by
  induction rest generalizing t with
  | nil => simp
  | cons b rest ih => simp [ih, leaves]

theorem eval_foldl {α β : Type} (op : ο → α → α → α) (neg : α → α) (σ : ι → α) (o : ο)
    (f : β → Term ι ο) (rest : List β) (t : Term ι ο) :
    (rest.foldl (fun t b => .node o t (f b)) t).eval op neg σ =
      (rest.map fun b => (f b).eval op neg σ).foldl (op o) (t.eval op neg σ) := by
  induction rest generalizing t with
  | nil => rfl
  | cons b rest ih => simp [ih, eval]

end Term

/-! ## Reading from left to right -/

/-- A half-read stretch of text: what is read before the last loose operator, what is read after it
before a tight one, and how many negations wait for their operand. -/
structure Level (ι ο : Type) where
  outer : Option (Term ι ο × ο)
  inner : Option (Term ι ο × ο)
  negations : Nat

/-- A term after what is read before it. -/
def Term.after (t : Term ι ο) : Option (Term ι ο × ο) → Term ι ο
  | none => t
  | some (s, o) => .node o s t

def Term.negate (t : Term ι ο) : Nat → Term ι ο
  | 0 => t
  | n + 1 => (Term.not t).negate n

namespace Level

def fresh : Level ι ο := ⟨none, none, 0⟩

/-- What is read after the last loose operator, once an operand is there. -/
def current (l : Level ι ο) (t : Term ι ο) : Term ι ο := (t.negate l.negations).after l.inner

def extend (tight : ο → Bool) (outer : Option (Term ι ο × ο)) (t : Term ι ο) (o : ο) : Level ι ο :=
  if tight o then ⟨outer, some (t, o), 0⟩ else ⟨some (t.after outer, o), none, 0⟩

end Level

mutual

/-- Reads tokens where an operand is due; `stack` holds the levels around the current one. -/
def readOperand (tight : ο → Bool) (stack : List (Level ι ο)) (l : Level ι ο) :
    List (Token ι ο) → Option (Term ι ο)
  | .leaf i :: ts => readOperator tight stack l.outer (l.current (.leaf i)) ts
  | .not :: ts => readOperand tight stack { l with negations := l.negations + 1 } ts
  | .opening :: ts => readOperand tight (l :: stack) .fresh ts
  | _ => none

def readOperator (tight : ο → Bool) (stack : List (Level ι ο)) (outer : Option (Term ι ο × ο))
    (t : Term ι ο) : List (Token ι ο) → Option (Term ι ο)
  | .op o :: ts => readOperand tight stack (.extend tight outer t o) ts
  | .closing :: ts =>
    match stack with
    | l :: stack => readOperator tight stack l.outer (l.current (t.after outer)) ts
    | [] => none
  | [] => if stack.isEmpty then some (t.after outer) else none
  | _ => none

end

/-- What the reader does with a stretch of tokens, whatever comes after it. -/
def Runs (tight : ο → Bool) (ts : List (Token ι ο)) (t : Term ι ο) : Strength → Prop
  | .operand => ∀ stack l rest,
      readOperand tight stack l (ts ++ rest) = readOperator tight stack l.outer (l.current t) rest
  | .tight => ∀ stack outer rest,
      readOperand tight stack ⟨outer, none, 0⟩ (ts ++ rest) = readOperator tight stack outer t rest
  | .loose => ∃ outer s, Term.after s outer = t ∧ ∀ stack rest,
      readOperand tight stack .fresh (ts ++ rest) = readOperator tight stack outer s rest

-- Where a stretch is read as a loose whole, the last operand after its last loose operator is still
-- open: a tight operator may follow and take it.
theorem Reads.runs {tight : ο → Bool} {s : Strength} {ts : List (Token ι ο)} {t : Term ι ο}
    (h : Reads tight s ts t) : Runs tight ts t s := by
  induction h with
  | leaf i => intro stack l rest; simp only [List.cons_append, List.nil_append, readOperand]
  | parens _ ih =>
      obtain ⟨outer, s, rfl, hr⟩ := ih
      intro stack l rest
      simp only [List.cons_append, List.append_assoc, List.nil_append, readOperand, hr,
        readOperator]
  | not _ ih =>
      intro stack l rest
      simp only [List.cons_append, readOperand, ih stack]
      rfl
  | ofOperand _ ih => intro stack outer rest; exact ih stack ⟨outer, none, 0⟩ rest
  | tight o ho _ _ iht ihu =>
      intro stack outer rest
      simp only [List.append_assoc, List.cons_append, iht stack, readOperator, Level.extend, ho,
        if_true, ihu stack]
      rfl
  | @ofTight ts t _ ih => exact ⟨none, t, rfl, fun stack rest => ih stack none rest⟩
  | @loose ts us t u o ho _ _ iht ihu =>
      obtain ⟨outer, s, rfl, hr⟩ := iht
      refine ⟨some (s.after outer, o), u, rfl, fun stack rest => ?_⟩
      simp only [List.append_assoc, List.cons_append, hr, readOperator, Level.extend, ho,
        Bool.false_eq_true, if_false, ihu stack]

/-- Text is read in at most one way. -/
theorem Reads.unique {tight : ο → Bool} {ts : List (Token ι ο)} {t u : Term ι ο}
    (ht : Reads tight .loose ts t) (hu : Reads tight .loose ts u) : t = u := by
  have hread : ∀ {t : Term ι ο}, Reads tight .loose ts t →
      readOperand tight [] .fresh ts = some t := by
    intro t h
    obtain ⟨outer, s, rfl, hr⟩ := h.runs
    simpa [readOperator] using hr [] []
  exact Option.some.inj ((hread ht).symm.trans (hread hu))

/-! ## Chains -/

theorem Reads.alone {tight : ο → Bool} {s : Strength} {ts : List (Token ι ο)} {t : Term ι ο}
    (h : Reads tight s ts t) : Reads tight .loose ts t := by
  cases s with
  | operand => exact .ofTight (.ofOperand h)
  | tight => exact .ofTight h
  | loose => exact h

/-- Operands with one operator between them are grouped to the left, whatever its strength. -/
theorem Reads.chain {tight : ο → Bool} {ts : List (Token ι ο)} {t : Term ι ο} (o : ο)
    (h : Reads tight .operand ts t) (rest : List (List (Token ι ο) × Term ι ο))
    (hr : ∀ r ∈ rest, Reads tight .operand r.1 r.2) :
    Reads tight .loose (ts ++ rest.flatMap fun r => .op o :: r.1)
      (rest.foldl (fun t r => .node o t r.2) t) := by
  cases ho : tight o with
  | true =>
      refine .ofTight ?_
      replace h := Reads.ofOperand h
      induction rest generalizing ts t with
      | nil => simpa using h
      | cons r rest ih =>
          obtain ⟨hhead, hrest⟩ := List.forall_mem_cons.mp hr
          simpa using ih hrest (h.tight o ho hhead)
  | false =>
      replace h := h.alone
      induction rest generalizing ts t with
      | nil => simpa using h
      | cons r rest ih =>
          obtain ⟨hhead, hrest⟩ := List.forall_mem_cons.mp hr
          simpa using ih hrest (h.loose o ho (.ofOperand hhead))

/-! ## Spelling -/

def Token.spell (leaf : ι → Fragment) (word : ο → String) : Token ι ο → Fragment
  | .leaf i => leaf i
  | .op o => .raw (word o)
  | .not => .raw "NOT "
  | .opening => .raw "("
  | .closing => .raw ")"

def spell (leaf : ι → Fragment) (word : ο → String) (ts : List (Token ι ο)) : Fragment :=
  .concat (ts.map (Token.spell leaf word))

section Spelling

variable (leaf : ι → Fragment) (word : ο → String)

@[simp] theorem spell_nil : spell leaf word [] = .empty := rfl

@[simp] theorem spell_cons (t : Token ι ο) (ts : List (Token ι ο)) :
    spell leaf word (t :: ts) = (t.spell leaf word).append (spell leaf word ts) := by
  simp [spell]

@[simp] theorem spell_append (ts us : List (Token ι ο)) :
    spell leaf word (ts ++ us) = (spell leaf word ts).append (spell leaf word us) := by
  simp [spell]

theorem concat_intersperse_spell (o : ο) (ts : List (Token ι ο)) (rest : List (List (Token ι ο))) :
    Fragment.concat (((ts :: rest).map (spell leaf word)).intersperse (.raw (word o))) =
      spell leaf word (ts ++ rest.flatMap fun r => .op o :: r) := by
  induction rest generalizing ts with
  | nil => simp
  | cons r rest ih =>
      have := ih r
      simp only [List.map_cons] at this
      simp [this, Token.spell]

end Spelling

end SqlCompose.Infix
