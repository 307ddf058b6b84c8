import SqlCompose.Proofs.Operations

/-!
# Reading rows

The text of a row determines the row. A name is read as far as it goes, and what comes next tells
what it was; after an operand, one or two characters tell whether the row goes on.
-/

namespace SqlCompose.Operation

/-! ## Names -/

/-- Names end where their characters end. -/
theorem name_eq_of_append {v w j k : List Char} (hv : ∀ c ∈ v, isWordChar c = true)
    (hw : ∀ c ∈ w, isWordChar c = true) (hj : ∀ c ∈ j.head?, isWordChar c = false)
    (hk : ∀ c ∈ k.head?, isWordChar c = false) (h : v ++ j = w ++ k) : v = w ∧ j = k := by
  induction v generalizing w with
  | nil =>
      cases w with
      | nil => exact ⟨rfl, h⟩
      | cons c w =>
          have hc := hj c (by rw [← List.nil_append j, h]; rfl)
          rw [hw c List.mem_cons_self] at hc
          cases hc
  | cons b v ih =>
      cases w with
      | nil =>
          have hb := hk b (by rw [← List.nil_append k, ← h]; rfl)
          rw [hv b List.mem_cons_self] at hb
          cases hb
      | cons c w =>
          obtain ⟨rfl, hrest⟩ := List.cons.inj h
          obtain ⟨rfl, rfl⟩ := ih (fun c hc => hv c (List.mem_cons_of_mem _ hc))
            (fun c hc => hw c (List.mem_cons_of_mem _ hc)) hrest
          exact ⟨rfl, rfl⟩

theorem identifier_eq_of_append {i i' : Identifier} {c : Char} {j k : List Char}
    (hc : isWordChar c = false) (h : i.chars ++ c :: j = i'.chars ++ c :: k) : i = i' ∧ j = k := by
  have hhead (l : List Char) : ∀ d ∈ (c :: l).head?, isWordChar d = false := by
    rintro _ ⟨⟩
    exact hc
  obtain ⟨hi, hjk⟩ := name_eq_of_append i.word i'.word (hhead j) (hhead k) h
  exact ⟨Identifier.ext hi, (List.cons.inj hjk).2⟩

/-! ## What follows -/

/-- The characters that may follow an operand. -/
def isStop (c : Char) : Bool := !isWordChar c && c != '.' && c != '('

/-- What follows does not belong to an operand. -/
def Stops (k : List Char) : Prop := ∀ c ∈ k.head?, isStop c = true

/-- What follows does not belong to a row. -/
inductive Ends : List Char → Prop where
  | nil : Ends []
  | close (k : List Char) : Ends (')' :: k)
  | space {c : Char} (k : List Char) : c ≠ '|' → c ≠ 'C' → Ends (' ' :: c :: k)

theorem Stops.head {c : Char} {k : List Char} (h : Stops (c :: k)) : isStop c = true :=
  h c rfl

theorem Stops.not_word {k : List Char} (h : Stops k) : ∀ c ∈ k.head?, isWordChar c = false := by
  intro c hc
  have hstop := h c hc
  simp only [isStop, Bool.and_eq_true, Bool.not_eq_true'] at hstop
  exact hstop.1.1

theorem Ends.stops {k : List Char} (h : Ends k) : Stops k := by
  intro c hc
  cases h with
  | nil => cases hc
  | close => cases hc; decide
  | space => cases hc; decide

theorem Tail.stops_write (t : Tail) {k : List Char} (h : Ends k) : Stops (t.write k) := by
  cases t with
  | done =>
      rw [Tail.write]
      exact h.stops
  | collate c rest =>
      rw [Tail.write]
      rintro _ ⟨⟩
      decide
  | link op a rest =>
      rw [Tail.write]
      cases op <;> rintro _ ⟨⟩ <;> decide

/-- Whatever a row goes on with cannot be taken for its end. -/
theorem Tail.eq_done_of_ends {t : Tail} {k : List Char} (h : Ends (t.write k)) : t = .done := by
  cases t with
  | done => rfl
  | collate c rest =>
      rw [Tail.write] at h
      cases h
      contradiction
  | link op a rest =>
      rw [Tail.write] at h
      cases op <;> cases h
      contradiction

/-! ## Operands -/

/-- The name with which an operand begins. -/
def Atom.word : Atom → List Char
  | .column none name => name.chars
  | .column (some q) _ => q.chars
  | .arithmetic _ _ _ => []
  | .cast _ _ => ['C', 'A', 'S', 'T']

/-- What is written for an operand after its first name. -/
def Atom.rest : Atom → List Char → List Char
  | .column none _, k => k
  | .column (some _) name, k => '.' :: (name.chars ++ k)
  | .arithmetic op l r, k => '(' :: l.write (' ' :: op.sign :: ' ' :: r.write (')' :: k))
  | .cast r s, k => '(' :: r.write (' ' :: 'A' :: 'S' :: ' ' :: (s.chars ++ ')' :: k))

theorem Atom.write_eq (a : Atom) (k : List Char) : a.write k = a.word ++ a.rest k := by
  cases a with
  | column q name => cases q <;> simp only [Atom.write, Atom.word, Atom.rest]
  | arithmetic op l r => simp only [Atom.write, Atom.word, Atom.rest, List.nil_append]
  | cast r s => simp only [Atom.write, Atom.word, Atom.rest]

theorem Atom.isWordChar_word (a : Atom) : ∀ c ∈ a.word, isWordChar c = true := by
  cases a with
  | column q name =>
      cases q with
      | none => exact name.word
      | some q => exact q.word
  | arithmetic op l r => simp [Atom.word]
  | cast r s =>
      intro c hc
      simp only [Atom.word, List.mem_cons, List.not_mem_nil, or_false] at hc
      rcases hc with rfl | rfl | rfl | rfl <;> rfl

theorem Atom.not_word_rest (a : Atom) {k : List Char} (h : Stops k) :
    ∀ c ∈ (a.rest k).head?, isWordChar c = false := by
  cases a with
  | column q name =>
      cases q with
      | none => exact h.not_word
      | some q =>
          rintro _ ⟨⟩
          decide
  | arithmetic op l r =>
      rintro _ ⟨⟩
      decide
  | cast r s =>
      rintro _ ⟨⟩
      decide

theorem Atom.word_eq_of_write {a b : Atom} {j k : List Char} (hj : Stops j) (hk : Stops k)
    (h : a.write j = b.write k) : a.word = b.word ∧ a.rest j = b.rest k := by
  rw [a.write_eq, b.write_eq] at h
  exact name_eq_of_append a.isWordChar_word b.isWordChar_word (a.not_word_rest hj)
    (b.not_word_rest hk) h

theorem Atom.write_ne (a : Atom) (j k : List Char) : a.write j ≠ '>' :: k := by
  have hname (i : Identifier) (l : List Char) : i.chars ++ l ≠ '>' :: k := by
    intro h
    cases hi : i.chars with
    | nil => exact i.ne_nil hi
    | cons c cs =>
        rw [hi] at h
        obtain rfl := (List.cons.inj h).1
        exact absurd (i.word '>' (by rw [hi]; exact List.mem_cons_self)) (by decide)
  cases a with
  | column q name =>
      cases q with
      | none =>
          rw [Atom.write]
          exact hname name j
      | some q =>
          rw [Atom.write]
          exact hname q _
  | arithmetic op l r =>
      rw [Atom.write]
      rintro ⟨⟩
  | cast r s =>
      rw [Atom.write]
      rintro ⟨⟩

/-! ## Rows -/

theorem Ends.after_sign (op : Arithmetic) (k : List Char) : Ends (' ' :: op.sign :: k) := by
  cases op <;> exact .space k (by decide) (by decide)

/-- Two links that are read alike are the same, as no operand begins with an arrow's head. -/
theorem link_eq_of_sign {op op' : Link} {a b : Atom} {j k : List Char}
    (h : op.sign ++ a.write j = op'.sign ++ b.write k) : op = op' ∧ a.write j = b.write k := by
  cases op <;> cases op' <;>
    simp only [Link.sign, List.cons_append, List.nil_append, List.cons.injEq, true_and,
      reduceCtorEq, Char.reduceEq, false_and] at h ⊢
  · exact h
  · exact h
  · exact absurd h (a.write_ne _ _)
  · exact absurd h.symm (b.write_ne _ _)
  · exact h

mutual

theorem Atom.eq_of_write : (a b : Atom) → {j k : List Char} → Stops j → Stops k →
    a.write j = b.write k → a = b ∧ j = k
  | .column none name, b, j, k, hj, hk, h => by
      obtain ⟨hw, hr⟩ := Atom.word_eq_of_write hj hk h
      cases b with
      | column q name' =>
          cases q with
          | none => exact ⟨by rw [Identifier.ext hw], hr⟩
          | some q =>
              rw [show j = '.' :: (name'.chars ++ k) from hr] at hj
              exact absurd hj.head (by decide)
      | arithmetic op l r => exact absurd hw name.ne_nil
      | cast r s =>
          rw [show j = '(' :: _ from hr] at hj
          exact absurd hj.head (by decide)
  | .column (some q) name, b, j, k, hj, hk, h => by
      obtain ⟨hw, hr⟩ := Atom.word_eq_of_write hj hk h
      cases b with
      | column q' name' =>
          cases q' with
          | none =>
              rw [show k = '.' :: (name.chars ++ j) from hr.symm] at hk
              exact absurd hk.head (by decide)
          | some q' =>
              obtain ⟨hname, hjk⟩ := name_eq_of_append name.word name'.word hj.not_word hk.not_word
                (List.cons.inj hr).2
              rw [Identifier.ext hw, Identifier.ext hname]
              exact ⟨rfl, hjk⟩
      | arithmetic op l r => exact absurd hw q.ne_nil
      | cast r s => cases (List.cons.inj hr).1
  | .arithmetic op l r, b, j, k, hj, hk, h => by
      obtain ⟨hw, hr⟩ := Atom.word_eq_of_write hj hk h
      cases b with
      | column q name =>
          cases q with
          | none => exact absurd hw.symm name.ne_nil
          | some q => exact absurd hw.symm q.ne_nil
      | cast r s => cases hw
      | arithmetic op' l' r' =>
          obtain ⟨rfl, hl⟩ := l.eq_of_write l' (.after_sign op _) (.after_sign op' _)
            (List.cons.inj hr).2
          obtain ⟨hop, hrhs⟩ := List.cons.inj (List.cons.inj hl).2
          obtain rfl := Arithmetic.sign_injective hop
          obtain ⟨rfl, hclose⟩ := r.eq_of_write r' (.close j) (.close k) (List.cons.inj hrhs).2
          exact ⟨rfl, (List.cons.inj hclose).2⟩
  | .cast r s, b, j, k, hj, hk, h => by
      obtain ⟨hw, hr⟩ := Atom.word_eq_of_write hj hk h
      cases b with
      | column q name =>
          cases q with
          | none =>
              rw [show k = '(' :: _ from hr.symm] at hk
              exact absurd hk.head (by decide)
          | some q => cases (List.cons.inj hr).1
      | arithmetic op l r => cases hw
      | cast r' s' =>
          obtain ⟨rfl, hs⟩ := r.eq_of_write r' (.space _ (by decide) (by decide))
            (.space _ (by decide) (by decide)) (List.cons.inj hr).2
          have htype : [' ', 'A', 'S', ' '] ++ (s.chars ++ ')' :: j) =
              [' ', 'A', 'S', ' '] ++ (s'.chars ++ ')' :: k) := hs
          obtain ⟨rfl, hjk⟩ :=
            identifier_eq_of_append (by decide) (List.append_cancel_left htype)
          exact ⟨rfl, hjk⟩

theorem Row.eq_of_write : (r s : Row) → {j k : List Char} → Ends j → Ends k →
    r.write j = s.write k → r = s ∧ j = k
  | .mk a t, .mk b u, j, k, hj, hk, h => by
      rw [Row.write, Row.write] at h
      obtain ⟨rfl, htail⟩ := a.eq_of_write b (t.stops_write hj) (u.stops_write hk) h
      obtain ⟨rfl, hjk⟩ := t.eq_of_write u hj hk htail
      exact ⟨rfl, hjk⟩

theorem Tail.eq_of_write : (t u : Tail) → {j k : List Char} → Ends j → Ends k →
    t.write j = u.write k → t = u ∧ j = k
  | .done, u, j, k, hj, hk, h => by
      rw [Tail.write] at h
      subst h
      obtain rfl := Tail.eq_done_of_ends hj
      rw [Tail.write]
      exact ⟨rfl, rfl⟩
  | .collate c rest, u, j, k, hj, hk, h => by
      cases u with
      | done =>
          rw [Tail.write.eq_1 k] at h
          subst h
          cases Tail.eq_done_of_ends hk
      | collate c' rest' =>
          rw [Tail.write, Tail.write] at h
          obtain ⟨rfl, hrest⟩ := identifier_eq_of_append (by decide) (List.append_cancel_left h)
          obtain ⟨rfl, hjk⟩ := rest.eq_of_write rest' hj hk hrest
          exact ⟨rfl, hjk⟩
      | link op a rest' =>
          rw [Tail.write, Tail.write] at h
          cases op <;> cases h
  | .link op a rest, u, j, k, hj, hk, h => by
      cases u with
      | done =>
          rw [Tail.write.eq_1 k] at h
          subst h
          cases Tail.eq_done_of_ends hk
      | collate c rest' =>
          rw [Tail.write, Tail.write] at h
          cases op <;> cases h
      | link op' b rest' =>
          rw [Tail.write, Tail.write] at h
          obtain ⟨rfl, hoperand⟩ := link_eq_of_sign h
          obtain ⟨rfl, hrest⟩ :=
            a.eq_of_write b (rest.stops_write hj) (rest'.stops_write hk) hoperand
          obtain ⟨rfl, hjk⟩ := rest.eq_of_write rest' hj hk hrest
          exact ⟨rfl, hjk⟩

end

/-- Different rows have different texts. -/
theorem Row.write_injective {r s : Row} (h : r.write [] = s.write []) : r = s :=
  (r.eq_of_write s .nil .nil h).1

end SqlCompose.Operation
