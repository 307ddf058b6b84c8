import SqlCompose.Proofs.Rows

/-!
# Which trees are written alike

Two trees have one text exactly if one becomes the other when operators that are written without
parentheses take their operands from each other. For a chain of concatenations that changes
nothing. The main statement says which texts leave no other choice.
-/

namespace SqlCompose.Operation

/-! ## Regrouping -/

/-- The least congruence that contains a rule. -/
inductive Upto (rule : Operation → Operation → Prop) : Operation → Operation → Prop where
  | rule {t u} : rule t u → Upto rule t u
  | refl (t) : Upto rule t t
  | symm {t u} : Upto rule t u → Upto rule u t
  | trans {t u v} : Upto rule t u → Upto rule u v → Upto rule t v
  | arithmetic {l l' r r'} (op : Arithmetic) : Upto rule l l' → Upto rule r r' →
      Upto rule (.arithmetic op l r) (.arithmetic op l' r')
  | link {l l' r r'} (op : Link) : Upto rule l l' → Upto rule r r' →
      Upto rule (.link op l r) (.link op l' r')
  | collate {t t'} (collation : Identifier) : Upto rule t t' →
      Upto rule (.collate t collation) (.collate t' collation)
  | cast {t t'} (sqlType : Identifier) : Upto rule t t' →
      Upto rule (.cast t sqlType) (.cast t' sqlType)

/-- Two operators without parentheses side by side, either of which may come first. -/
inductive Regroups : Operation → Operation → Prop where
  | link (op op' : Link) (a b c : Operation) :
      Regroups (.link op' (.link op a b) c) (.link op a (.link op' b c))
  | collate (op : Link) (a b : Operation) (collation : Identifier) :
      Regroups (.collate (.link op a b) collation) (.link op a (.collate b collation))

inductive Reassociates : Operation → Operation → Prop where
  | concat (a b c : Operation) :
      Reassociates (.link .concat (.link .concat a b) c) (.link .concat a (.link .concat b c))

abbrev Regrouped : Operation → Operation → Prop := Upto Regroups

/-- The same tree but for the grouping of chains of concatenations. -/
abbrev Reassociated : Operation → Operation → Prop := Upto Reassociates

theorem Tail.append_done : (t : Tail) → t.append .done = t
  | .done => rfl
  | .collate _ rest => by rw [Tail.append, rest.append_done]
  | .link _ _ rest => by rw [Tail.append, rest.append_done]

theorem Row.extend_done (r : Row) : r.extend .done = r := by
  cases r with
  | mk head tail => rw [Row.extend, tail.append_done]

@[simp] theorem Row.head_extend (r : Row) (t : Tail) : (r.extend t).head = r.head := by
  cases r
  rfl

@[simp] theorem Row.tail_extend (r : Row) (t : Tail) :
    (r.extend t).tail = r.tail.append t := by
  cases r
  rfl

theorem Regrouped.row_eq {t u : Operation} (h : t.Regrouped u) : t.row = u.row := by
  induction h with
  | rule h =>
      cases h with
      | link op op' a b c => simp [row, Tail.append]
      | collate op a b c => simp [row, Tail.append]
  | refl => rfl
  | symm _ ih => exact ih.symm
  | trans _ _ ih ih' => exact ih.trans ih'
  | arithmetic op _ _ ihl ihr => rw [row, row, ihl, ihr]
  | link op _ _ ihl ihr => rw [row, row, ihl, ihr]
  | collate c _ ih => rw [row, row, ih]
  | cast s _ ih => rw [row, row, ih]

/-! ## The tree of a row -/

mutual

def Atom.tree : Atom → Operation
  | .column q name => .column q name
  | .arithmetic op l r => .arithmetic op l.tree r.tree
  | .cast r s => .cast r.tree s

/-- The tree in which every operator takes all that stands before it. -/
def Row.tree : Row → Operation
  | .mk head tail => tail.onto head.tree

def Tail.onto : Tail → Operation → Operation
  | .done, t => t
  | .collate c rest, t => rest.onto (.collate t c)
  | .link op a rest, t => rest.onto (.link op t a.tree)

end

theorem Tail.onto_append : (a b : Tail) → (t : Operation) →
    (a.append b).onto t = b.onto (a.onto t)
  | .done, b, t => by rw [Tail.append, Tail.onto]
  | .collate c rest, b, t => by rw [Tail.append, Tail.onto, Tail.onto, rest.onto_append]
  | .link op a rest, b, t => by rw [Tail.append, Tail.onto, Tail.onto, rest.onto_append]

theorem Row.tree_extend (r : Row) (t : Tail) : (r.extend t).tree = t.onto r.tree := by
  cases r with
  | mk head tail => rw [Row.extend, Row.tree, Row.tree, tail.onto_append]

theorem row_link (op : Link) (l r : Operation) :
    (l.link op r).row.tree = r.row.tail.onto (.link op l.row.tree r.row.head.tree) := by
  rw [row, Row.tree_extend, Tail.onto]

theorem Row.onto_head (r : Row) : r.tail.onto r.head.tree = r.tree := by
  cases r with
  | mk head tail => rw [Row.tree, Row.tail, Row.head]

theorem Upto.onto {rule : Operation → Operation → Prop} : (tail : Tail) → {t u : Operation} →
    Upto rule t u → Upto rule (tail.onto t) (tail.onto u)
  | .done, t, u, h => by
      rw [Tail.onto, Tail.onto]
      exact h
  | .collate c rest, t, u, h => by
      rw [Tail.onto, Tail.onto]
      exact (h.collate c).onto rest
  | .link op a rest, t, u, h => by
      rw [Tail.onto, Tail.onto]
      exact (h.link op (.refl _)).onto rest

theorem regrouped_onto (op : Link) (x : Operation) : (tail : Tail) → (y : Operation) →
    Regrouped (.link op x (tail.onto y)) (tail.onto (.link op x y))
  | .done, y => by
      rw [Tail.onto, Tail.onto]
      exact .refl _
  | .collate c rest, y => by
      rw [Tail.onto, Tail.onto]
      exact (regrouped_onto op x rest _).trans (.onto rest (.symm (.rule (.collate op x y c))))
  | .link op' a rest, y => by
      rw [Tail.onto, Tail.onto]
      exact (regrouped_onto op x rest _).trans
        (.onto rest (.symm (.rule (.link op op' x y a.tree))))

/-- Every tree can be regrouped from the left. -/
theorem regrouped_tree (t : Operation) : t.Regrouped t.row.tree := by
  induction t with
  | column q name =>
      rw [row, Row.tree, Tail.onto, Atom.tree]
      exact .refl _
  | arithmetic op l r hl hr =>
      rw [row, Row.tree, Tail.onto, Atom.tree]
      exact .arithmetic op hl hr
  | link op l r hl hr =>
      have hmove := regrouped_onto op l.row.tree r.row.tail r.row.head.tree
      rw [r.row.onto_head] at hmove
      rw [row_link]
      exact (hl.link op hr).trans hmove
  | collate t c ht =>
      rw [row, Row.tree_extend, Tail.onto, Tail.onto]
      exact ht.collate c
  | cast t s ht =>
      rw [row, Row.tree, Tail.onto, Atom.tree]
      exact ht.cast s

theorem row_eq_iff (t u : Operation) : t.row = u.row ↔ t.Regrouped u := by
  constructor
  · intro h
    have hu := u.regrouped_tree
    rw [← h] at hu
    exact t.regrouped_tree.trans hu.symm
  · exact Regrouped.row_eq

/-! ## Settled rows -/

mutual

def Atom.Settled : Atom → Prop
  | .column _ _ => True
  | .arithmetic _ l r => l.Settled ∧ r.Settled
  | .cast r _ => r.Settled

/-- No operand of the row can be taken by either of two operators, but in a chain of
concatenations. -/
def Row.Settled : Row → Prop
  | .mk head tail => head.Settled ∧ tail.Settled

def Tail.Settled : Tail → Prop
  | .done => True
  | .collate _ rest => rest.Settled
  | .link op a rest => a.Settled ∧ rest.SettledAfter op

/-- What may follow the right operand of a link. -/
def Tail.SettledAfter (op : Link) : Tail → Prop
  | .done => True
  | .collate _ _ => False
  | .link op' a rest => (op = .concat ∧ op' = .concat) ∧ a.Settled ∧ rest.SettledAfter op'

end

theorem Tail.SettledAfter.settled {op : Link} {t : Tail} (h : t.SettledAfter op) : t.Settled := by
  cases t with
  | done => exact trivial
  | collate c rest => exact h.elim
  | link op' a rest => exact h.2

theorem Tail.SettledAfter.of_append {op : Link} {b : Tail} : (a : Tail) →
    (a.append b).SettledAfter op → a.SettledAfter op ∧ b.Settled
  | .done, h => ⟨trivial, h.settled⟩
  | .collate _ _, h => h.elim
  | .link _ _ rest, h => by
      obtain ⟨hop, ha, hrest⟩ := h
      obtain ⟨hleft, hright⟩ := of_append rest hrest
      exact ⟨⟨hop, ha, hleft⟩, hright⟩

theorem Tail.Settled.of_append {b : Tail} : (a : Tail) → (a.append b).Settled →
    a.Settled ∧ b.Settled
  | .done, h => ⟨trivial, h⟩
  | .collate _ rest, h => of_append rest h
  | .link _ _ rest, h => by
      obtain ⟨ha, hrest⟩ := h
      obtain ⟨hleft, hright⟩ := hrest.of_append rest
      exact ⟨⟨ha, hleft⟩, hright⟩

theorem Row.Settled.of_extend {r : Row} {t : Tail} (h : (r.extend t).Settled) :
    r.Settled ∧ t.Settled := by
  cases r with
  | mk head tail =>
      obtain ⟨hhead, htail⟩ := h
      obtain ⟨hleft, hright⟩ := htail.of_append tail
      exact ⟨⟨hhead, hleft⟩, hright⟩

/-- In a settled row an operator may take the whole of what follows. -/
theorem reassociated_onto {op : Link} (x : Operation) : (tail : Tail) → (y : Operation) →
    tail.SettledAfter op → Reassociated (.link op x (tail.onto y)) (tail.onto (.link op x y))
  | .done, y, _ => by
      rw [Tail.onto, Tail.onto]
      exact .refl _
  | .collate _ _, _, h => h.elim
  | .link op' a rest, y, h => by
      obtain ⟨⟨rfl, rfl⟩, -, hrest⟩ := h
      rw [Tail.onto, Tail.onto]
      exact (reassociated_onto x rest _ hrest).trans
        (.onto rest (.symm (.rule (.concat x y a.tree))))

theorem reassociated_tree (t : Operation) (h : t.row.Settled) : t.Reassociated t.row.tree := by
  induction t with
  | column q name =>
      rw [row, Row.tree, Tail.onto, Atom.tree]
      exact .refl _
  | arithmetic op l r hl hr =>
      obtain ⟨⟨hleft, hright⟩, -⟩ := h
      rw [row, Row.tree, Tail.onto, Atom.tree]
      exact .arithmetic op (hl hleft) (hr hright)
  | link op l r hl hr =>
      obtain ⟨hleft, hhead, htail⟩ := h.of_extend
      have hright : r.row.Settled := by
        cases hr : r.row
        rw [hr] at hhead htail
        exact ⟨hhead, htail.settled⟩
      have hmove := reassociated_onto l.row.tree r.row.tail r.row.head.tree htail
      rw [r.row.onto_head] at hmove
      rw [row_link]
      exact ((hl hleft).link op (hr hright)).trans hmove
  | collate t c ht =>
      rw [row, Row.tree_extend, Tail.onto, Tail.onto]
      exact (ht h.of_extend.1).collate c
  | cast t s ht =>
      rw [row, Row.tree, Tail.onto, Atom.tree]
      exact (ht h.1).cast s

/-! ## Depths -/

def deeper (n : Nat) (depths : List Nat) : List Nat := depths.map (· + n)

/-- A concatenation does not count. -/
def linkDepth : Link → Nat
  | .concat => 0
  | _ => 1

/-- How many operators stand around each column. -/
def depths : Operation → List Nat
  | .column _ _ => [0]
  | .arithmetic _ l r => deeper 1 l.depths ++ deeper 1 r.depths
  | .link op l r => deeper (linkDepth op) l.depths ++ deeper (linkDepth op) r.depths
  | .collate t _ => deeper 1 t.depths
  | .cast t _ => deeper 1 t.depths

@[simp] theorem deeper_zero (l : List Nat) : deeper 0 l = l := by simp [deeper]

@[simp] theorem deeper_append (n : Nat) (l m : List Nat) :
    deeper n (l ++ m) = deeper n l ++ deeper n m := by simp [deeper]

@[simp] theorem deeper_deeper (n m : Nat) (l : List Nat) :
    deeper n (deeper m l) = deeper (m + n) l := by
  simp [deeper, Function.comp_def, Nat.add_assoc]

@[simp] theorem length_deeper (n : Nat) (l : List Nat) : (deeper n l).length = l.length := by
  simp [deeper]

theorem deeper_injective (n : Nat) {l m : List Nat} (h : deeper n l = deeper n m) : l = m := by
  refine (List.map_inj_right ?_).mp h
  intro a b hab
  exact Nat.add_right_cancel hab

theorem eq_of_deeper {n m : Nat} {l : List Nat} (hl : l ≠ []) (h : deeper n l = deeper m l) :
    n = m := by
  cases l with
  | nil => exact absurd rfl hl
  | cons a l => exact Nat.add_left_cancel (List.cons.inj h).1

theorem eq_concat_of_linkDepth {op : Link} (h : linkDepth op = 0) : op = .concat := by
  cases op with
  | concat => rfl
  | jsonGet => cases h
  | jsonGetText => cases h

theorem depths_ne_nil (t : Operation) : t.depths ≠ [] := by
  induction t with
  | column q name => simp [depths]
  | arithmetic op l r hl hr => simp [depths, deeper, hl]
  | link op l r hl hr => simp [depths, deeper, hl]
  | collate t c ht => simpa [depths, deeper] using ht
  | cast t s ht => simpa [depths, deeper] using ht

theorem Reassociated.depths_eq {t u : Operation} (h : t.Reassociated u) : t.depths = u.depths := by
  induction h with
  | rule h =>
      cases h with
      | concat a b c => simp [depths, linkDepth]
  | refl => rfl
  | symm _ ih => exact ih.symm
  | trans _ _ ih ih' => exact ih.trans ih'
  | arithmetic op _ _ ihl ihr => rw [depths, depths, ihl, ihr]
  | link op _ _ ihl ihr => rw [depths, depths, ihl, ihr]
  | collate c _ ih => rw [depths, depths, ih]
  | cast s _ ih => rw [depths, depths, ih]

theorem Tail.depths_onto : (tail : Tail) → {t u : Operation} →
    (tail.onto t).depths = (tail.onto u).depths → t.depths = u.depths
  | .done, t, u, h => by
      rw [Tail.onto, Tail.onto] at h
      exact h
  | .collate c rest, t, u, h => by
      rw [Tail.onto, Tail.onto] at h
      exact deeper_injective 1 (rest.depths_onto h)
  | .link op a rest, t, u, h => by
      rw [Tail.onto, Tail.onto] at h
      exact deeper_injective _ (List.append_cancel_right (rest.depths_onto h))

/-! ## Rows that are not settled -/

mutual

theorem Atom.row_tree : (a : Atom) → a.tree.row = .mk a .done
  | .column q name => by rw [Atom.tree, row]
  | .arithmetic op l r => by rw [Atom.tree, row, l.row_tree, r.row_tree]
  | .cast r s => by rw [Atom.tree, row, r.row_tree]

theorem Row.row_tree : (r : Row) → r.tree.row = r
  | .mk head tail => by rw [Row.tree, tail.row_onto, head.row_tree, Row.extend, Tail.append]

theorem Tail.row_onto : (tail : Tail) → (t : Operation) → (tail.onto t).row = t.row.extend tail
  | .done, t => by
      rw [Tail.onto, Row.extend_done]
  | .collate c rest, t => by
      rw [Tail.onto, rest.row_onto, row, Row.extend_extend, Tail.append, Tail.append]
  | .link op a rest, t => by
      rw [Tail.onto, rest.row_onto, row, Row.extend_extend, a.row_tree, Row.head, Row.tail,
        Tail.append, Tail.append]

end

theorem extend_collate (x : Operation) (c : Identifier) (rest : Tail) :
    x.row.extend (.collate c rest) = (x.collate c).row.extend rest := by
  rw [row, Row.extend_extend, Tail.append, Tail.append]

theorem extend_link (x : Operation) (op : Link) (a : Atom) (rest : Tail) :
    x.row.extend (.link op a rest) = (x.link op a.tree).row.extend rest := by
  rw [row, Row.extend_extend, a.row_tree, Row.head, Row.tail, Tail.append, Tail.append]

/-- The row of two trees that are not the same up to the grouping of concatenations. -/
def Apart (r : Row) : Prop := ∃ t u : Operation, t.row = r ∧ u.row = r ∧ t.depths ≠ u.depths

/-- What stands around two trees does not make them alike. -/
theorem Apart.within {r r' : Row} (h : Apart r) (around : Operation → Operation)
    (hrow : ∀ t, t.row = r → (around t).row = r')
    (hdepths : ∀ t u, (around t).depths = (around u).depths → t.depths = u.depths) : Apart r' := by
  obtain ⟨t, u, ht, hu, hne⟩ := h
  exact ⟨around t, around u, hrow t ht, hrow u hu, fun h => hne (hdepths t u h)⟩

theorem Apart.extend {r : Row} (h : Apart r) (tail : Tail) : Apart (r.extend tail) := by
  refine h.within tail.onto (fun t ht => ?_) fun t u => tail.depths_onto
  rw [tail.row_onto, ht]

theorem Apart.link {a : Atom} (h : Apart (.mk a .done)) (op : Link) (x : Operation) :
    Apart (Operation.link op x a.tree).row := by
  refine h.within (.link op x) (fun t ht => ?_) fun t u hd => ?_
  · rw [row, row, a.row_tree, ht]
  · exact deeper_injective _ (List.append_cancel_left hd)

/-- A collation takes one operand or two. -/
theorem apart_collate (op : Link) (x y : Operation) (c : Identifier) :
    Apart (Operation.collate (.link op x y) c).row := by
  have hrow := Regrouped.row_eq (.rule (.collate op x y c))
  refine ⟨_, .link op x (.collate y c), rfl, hrow.symm, ?_⟩
  intro h
  simp only [depths, deeper_append, deeper_deeper] at h
  have hx := eq_of_deeper x.depths_ne_nil (List.append_inj_left h (by simp))
  omega

/-- Two links in a row may be taken in two ways, but for two concatenations. -/
theorem apart_link {op op' : Link} (h : ¬ (op = .concat ∧ op' = .concat)) (x y z : Operation) :
    Apart (Operation.link op' (.link op x y) z).row := by
  have hrow := Regrouped.row_eq (.rule (.link op op' x y z))
  refine ⟨_, .link op x (.link op' y z), rfl, hrow.symm, ?_⟩
  intro hd
  simp only [depths, deeper_append, deeper_deeper, List.append_assoc] at hd
  obtain ⟨hx, hyz⟩ := List.append_inj hd (by simp)
  have hleft := eq_of_deeper x.depths_ne_nil hx
  have hright := eq_of_deeper z.depths_ne_nil (List.append_inj_right hyz (by simp))
  exact h ⟨eq_concat_of_linkDepth (by omega), eq_concat_of_linkDepth (by omega)⟩

mutual

theorem Atom.apart : (a : Atom) → ¬ a.Settled → Apart (.mk a .done)
  | .column q name, h => absurd trivial h
  | .arithmetic op l r, h => by
      by_cases hl : l.Settled
      · have hr := r.apart fun hr => h ⟨hl, hr⟩
        refine hr.within (.arithmetic op l.tree) (fun t ht => ?_) fun t u hd => ?_
        · rw [row, ht, l.row_tree]
        · exact deeper_injective 1 (List.append_cancel_left hd)
      · refine (l.apart hl).within (.arithmetic op · r.tree) (fun t ht => ?_) fun t u hd => ?_
        · rw [row, ht, r.row_tree]
        · exact deeper_injective 1 (List.append_cancel_right hd)
  | .cast r s, h => by
      refine (r.apart h).within (.cast · s) (fun t ht => ?_) fun t u => deeper_injective 1
      rw [row, ht]

theorem Row.apart : (r : Row) → ¬ r.Settled → Apart r
  | .mk head tail, h => by
      have hrow : Row.mk head tail = head.tree.row.extend tail := by
        rw [head.row_tree, Row.extend, Tail.append]
      rw [hrow]
      by_cases hhead : head.Settled
      · exact tail.apart head.tree fun htail => h ⟨hhead, htail⟩
      · rw [head.row_tree]
        exact (head.apart hhead).extend tail

theorem Tail.apart : (tail : Tail) → (x : Operation) → ¬ tail.Settled → Apart (x.row.extend tail)
  | .done, _, h => absurd trivial h
  | .collate c rest, x, h => by
      rw [extend_collate]
      exact rest.apart _ h
  | .link op a rest, x, h => by
      rw [extend_link]
      by_cases ha : a.Settled
      · exact rest.apart_after op x a.tree fun hrest => h ⟨ha, hrest⟩
      · exact ((a.apart ha).link op x).extend rest

theorem Tail.apart_after : (tail : Tail) → (op : Link) → (x y : Operation) →
    ¬ tail.SettledAfter op → Apart ((Operation.link op x y).row.extend tail)
  | .done, _, _, _, h => absurd trivial h
  | .collate c rest, op, x, y, h => by
      rw [extend_collate]
      exact (apart_collate op x y c).extend rest
  | .link op' a rest, op, x, y, h => by
      rw [extend_link]
      by_cases hops : op = .concat ∧ op' = .concat
      · by_cases ha : a.Settled
        · exact rest.apart_after op' _ a.tree fun hrest => h ⟨hops, ha, hrest⟩
        · exact ((a.apart ha).link op' _).extend rest
      · exact (apart_link hops x y a.tree).extend rest

end

/-! ## Texts -/

theorem render_eq_iff_row_eq {t u : Operation} {f g : Field} (hf : t.Builds f) (hg : u.Builds g) :
    f.render .none = g.render .none ↔ t.row = u.row := by
  rw [hf.render, hg.render]
  constructor
  · intro h
    have htext := congrArg (fun r : Fragment => r.sql.toList) h
    simp only [Fragment.raw, String.toList_ofList] at htext
    exact Row.write_injective htext
  · intro h
    rw [h]

/-- Another field built by operators has the same text exactly if its tree is the same up to a
regrouping of operators that are written without parentheses. The text leaves nothing open but the
grouping of concatenations exactly if its row is settled. -/
theorem render_eq_iff_regrouped {t : Operation} {f : Field} (hf : t.Builds f) :
    (∀ u g, Builds u g → (g.render .none = f.render .none ↔ u.Regrouped t)) ∧
    ((∀ u g, Builds u g → g.render .none = f.render .none → u.Reassociated t) ↔
      t.row.Settled) := by
  refine ⟨fun u g hg => ?_, fun h => ?_, fun h u g hg heq => ?_⟩
  · rw [render_eq_iff_row_eq hg hf, row_eq_iff]
  · refine Classical.byContradiction fun hopen => ?_
    obtain ⟨v, w, hv, hw, hne⟩ := t.row.apart hopen
    have hsame (u : Operation) (hu : u.row = t.row) : u.depths = t.depths := by
      obtain ⟨g, hg⟩ := u.exists_builds
      exact (h u g hg ((render_eq_iff_row_eq hg hf).mpr hu)).depths_eq
    exact hne ((hsame v hv).trans (hsame w hw).symm)
  · have hrow := (render_eq_iff_row_eq hg hf).mp heq
    have hu := u.reassociated_tree (by rwa [hrow])
    rw [hrow] at hu
    exact hu.trans (t.reassociated_tree h).symm

def letter (c : Char) (h : isWordChar c = true) : Identifier where
  chars := [c]
  ne_nil := by simp
  word := by simpa using h

def leaf (c : Char) (h : isWordChar c = true) : Operation := .column none (letter c h)

/-- `a || (b || c)` -/
def concatRight : Operation :=
  .link .concat (leaf 'a' rfl) (.link .concat (leaf 'b' rfl) (leaf 'c' rfl))

/-- `(a || b) || c` -/
def concatLeft : Operation :=
  .link .concat (.link .concat (leaf 'a' rfl) (leaf 'b' rfl)) (leaf 'c' rfl)

/-- `a -> (b -> c)` -/
def accessRight : Operation :=
  .link .jsonGet (leaf 'a' rfl) (.link .jsonGet (leaf 'b' rfl) (leaf 'c' rfl))

/-- `(a -> b) -> c` -/
def accessLeft : Operation :=
  .link .jsonGet (.link .jsonGet (leaf 'a' rfl) (leaf 'b' rfl)) (leaf 'c' rfl)

def col (name : String) : Field := .column name .string

theorem builds_leaf (c : Char) (h : isWordChar c = true) :
    Builds (leaf c h) (col (String.ofList [c])) :=
  .column (letter c h) .string

theorem concat_regrouped_alike :
    ((col "a").concat ((col "b").concat (col "c"))).render .none =
      (((col "a").concat (col "b")).concat (col "c")).render .none ∧
    concatRight.Reassociated concatLeft := by
  have hright : concatRight.Builds ((col "a").concat ((col "b").concat (col "c"))) :=
    .link .concat (builds_leaf 'a' rfl) (.link .concat (builds_leaf 'b' rfl) (builds_leaf 'c' rfl))
  have hleft : concatLeft.Builds (((col "a").concat (col "b")).concat (col "c")) :=
    .link .concat (.link .concat (builds_leaf 'a' rfl) (builds_leaf 'b' rfl)) (builds_leaf 'c' rfl)
  obtain ⟨hregrouped, hreassociated⟩ := render_eq_iff_regrouped hleft
  have heq := (hregrouped _ _ hright).mpr (.symm (.rule (.link .concat .concat _ _ _)))
  have hsettled : concatLeft.row.Settled :=
    ⟨trivial, trivial, ⟨rfl, rfl⟩, trivial, trivial⟩
  exact ⟨heq, hreassociated.mpr hsettled _ _ hright heq⟩

theorem json_access_regrouped_alike :
    accessRight.Builds ((col "a").jsonGet ((col "b").jsonGet (col "c"))) ∧
    accessLeft.Builds (((col "a").jsonGet (col "b")).jsonGet (col "c")) ∧
    ((col "a").jsonGet ((col "b").jsonGet (col "c"))).render .none = .raw "a->b->c" ∧
    (((col "a").jsonGet (col "b")).jsonGet (col "c")).render .none = .raw "a->b->c" ∧
    ¬ accessRight.Reassociated accessLeft := by
  have hright : accessRight.Builds ((col "a").jsonGet ((col "b").jsonGet (col "c"))) :=
    .link .jsonGet (builds_leaf 'a' rfl)
      (.link .jsonGet (builds_leaf 'b' rfl) (builds_leaf 'c' rfl))
  have hleft : accessLeft.Builds (((col "a").jsonGet (col "b")).jsonGet (col "c")) :=
    .link .jsonGet (.link .jsonGet (builds_leaf 'a' rfl) (builds_leaf 'b' rfl))
      (builds_leaf 'c' rfl)
  refine ⟨hright, hleft, hright.render, hleft.render, ?_⟩
  intro h
  exact absurd h.depths_eq (by decide)

end SqlCompose.Operation
