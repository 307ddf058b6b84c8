import SqlCompose.Dialect

/-!
# Units of neutral text

Which rows of units can be written down as neutral text and read back. A slot is a lone question
mark, so it is lost when a unit that is spelled with a question mark follows it directly.
-/

namespace SqlCompose.Neutral

/-- Whether the neutral spelling of a unit begins with a question mark. -/
def Mark.questions : Mark → Bool
  | .literal c => c == '?'
  | .slot => true

/-- The first unit, if any, is not spelled with a question mark. -/
def Quiet (ms : List Mark) : Prop := ∀ m ∈ ms.head?, m.questions = false

/-- No slot stands directly before a unit that is spelled with a question mark. -/
def Separated : List Mark → Prop
  | [] => True
  | m :: ms => (m = .slot → Quiet ms) ∧ Separated ms

/-! ## Rows -/

@[simp] theorem quiet_nil : Quiet [] := by simp [Quiet]

@[simp] theorem quiet_cons {m : Mark} {ms : List Mark} :
    Quiet (m :: ms) ↔ m.questions = false := by simp [Quiet]

@[simp] theorem separated_nil : Separated [] := trivial

@[simp] theorem separated_literal_cons {c : Char} {ms : List Mark} :
    Separated (.literal c :: ms) ↔ Separated ms := by simp [Separated]

@[simp] theorem separated_slot_cons {ms : List Mark} :
    Separated (.slot :: ms) ↔ Quiet ms ∧ Separated ms := by simp [Separated]

theorem Quiet.append {a b : List Mark} (ha : Quiet a) (hb : Quiet b) : Quiet (a ++ b) := by
  cases a with
  | nil => exact hb
  | cons m ms => simpa using ha

theorem Separated.append {a b : List Mark} (ha : Separated a) (hb : Separated b)
    (hab : a.getLast? = some .slot → Quiet b) : Separated (a ++ b) := by
  induction a with
  | nil => exact hb
  | cons m ms ih =>
      refine ⟨fun hm => ?_, ih ha.2 fun h => hab ?_⟩
      · cases ms with
        | nil => exact hab (by simp [hm])
        | cons n ns => simpa using ha.1 hm
      · cases ms with
        | nil => simp at h
        | cons n ns => simpa using h

/-! ## Literal text -/

def literals (s : List Char) : List Mark := s.map .literal

@[simp] theorem count_slot_literals (s : List Char) : (literals s).count .slot = 0 := by
  simp [literals, List.count_eq_zero]

theorem getLast?_literals_ne_slot (s : List Char) : (literals s).getLast? ≠ some .slot := by
  simp [literals]

theorem separated_literals (s : List Char) : Separated (literals s) := by
  induction s with
  | nil => trivial
  | cons c s ih => exact separated_literal_cons.mpr ih

theorem quiet_literals {s : List Char} (h : s.head? ≠ some '?') : Quiet (literals s) := by
  cases s with
  | nil => simp [literals]
  | cons c s => simpa [literals, Mark.questions] using h

/-! ## Reading -/

theorem marks_pair (cs : List Char) : marks ('?' :: '?' :: cs) = .literal '?' :: marks cs := by
  simp [marks]

theorem marks_of_ne {c : Char} (h : c ≠ '?') (cs : List Char) :
    marks (c :: cs) = .literal c :: marks cs := by
  cases cs with
  | nil => simp [marks, h]
  | cons d cs => simp [marks, h]

theorem marks_slot {cs : List Char} (h : cs.head? ≠ some '?') :
    marks ('?' :: cs) = .slot :: marks cs := by
  cases cs with
  | nil => simp [marks]
  | cons d cs =>
      have hd : d ≠ '?' := by simpa using h
      simp [marks, hd]

/-- Whatever neutral text is read, a slot never comes directly before a question mark. -/
theorem separated_marks (cs : List Char) : Separated (marks cs) := by
  induction cs using marks.induct with
  | case1 => trivial
  | case2 => simp [marks]
  | case3 c hc => simp [marks, hc]
  | case4 rest ih => rw [marks_pair]; exact separated_literal_cons.mpr ih
  | case5 d rest hd ih =>
      rw [marks_slot (by simpa using hd)]
      refine separated_slot_cons.mpr ⟨?_, ih⟩
      rw [marks_of_ne hd]
      simpa [Mark.questions] using hd
  | case6 c d rest hc ih => rw [marks_of_ne hc]; exact separated_literal_cons.mpr ih

theorem head?_chars_ne {ms : List Mark} (h : Quiet ms) :
    (ms.flatMap Mark.chars).head? ≠ some '?' := by
  cases ms with
  | nil => simp
  | cons m ms =>
      cases m with
      | slot => simp [Mark.questions] at h
      | literal c =>
          have hc : c ≠ '?' := by simpa [Mark.questions] using h
          simp [Mark.chars, hc]

/-- A row of units without a lost slot reads back as itself. -/
theorem marks_flatMap_chars {ms : List Mark} (h : Separated ms) :
    marks (ms.flatMap Mark.chars) = ms := by
  induction ms with
  | nil => rfl
  | cons m ms ih =>
      have hms := ih h.2
      cases m with
      | slot => simp [Mark.chars, marks_slot (head?_chars_ne (h.1 rfl)), hms]
      | literal c =>
          by_cases hc : c = '?'
          · subst hc; simp [Mark.chars, marks_pair, hms]
          · simp [Mark.chars, hc, marks_of_ne hc, hms]

/-- Reading loses nothing. -/
theorem flatMap_chars_marks (cs : List Char) : (marks cs).flatMap Mark.chars = cs := by
  induction cs using marks.induct with
  | case1 => rfl
  | case2 => simp [marks, Mark.chars]
  | case3 c hc => simp [marks, hc, Mark.chars]
  | case4 rest ih => simp [marks_pair, Mark.chars, ih]
  | case5 d rest hd ih =>
      rw [marks_slot (by simpa using hd), List.flatMap_cons, ih]
      rfl
  | case6 c d rest hc ih => simp [marks_of_ne hc, Mark.chars, hc, ih]

/-- A question mark is that of a slot, or one of the two of a literal one. -/
theorem count_flatMap_chars (ms : List Mark) :
    (ms.flatMap Mark.chars).count '?' = ms.count .slot + 2 * ms.count (.literal '?') := by
  induction ms with
  | nil => rfl
  | cons m ms ih =>
      cases m with
      | slot => simp [Mark.chars, ih]; omega
      | literal c =>
          by_cases hc : c = '?'
          · subst hc
            simp [Mark.chars, ih]
            omega
          · simp [Mark.chars, ih, hc]

/-- Whether a text ends in a slot. A question mark right after it would be read together with it. -/
def EndsInSlot (t : String) : Prop := (marks t.toList).getLast? = some .slot

/-- What stands after a text that does not end in a slot is read on its own. -/
theorem marks_append {t : String} (h : ¬ EndsInSlot t) (cs : List Char) :
    marks (t.toList ++ cs) = marks t.toList ++ marks cs := by
  have hsep := (separated_marks t.toList).append (separated_marks cs) fun hlast => absurd hlast h
  rw [← marks_flatMap_chars hsep, List.flatMap_append, flatMap_chars_marks, flatMap_chars_marks]

theorem flatMap_chars_eq_nil {ms : List Mark} : ms.flatMap Mark.chars = [] ↔ ms = [] := by
  cases ms with
  | nil => simp
  | cons m ms =>
      cases m with
      | slot => simp [Mark.chars]
      | literal c => by_cases hc : c = '?' <;> simp [Mark.chars, hc]

/-! ## Escaped text -/

theorem escapeChars_eq (s : List Char) : escapeChars s = (literals s).flatMap Mark.chars := by
  simp [escapeChars, literals, List.flatMap_map]

@[simp] theorem toList_escape (s : String) :
    (escape s).toList = (literals s.toList).flatMap Mark.chars := by
  simp [escape, escapeChars_eq]

@[simp] theorem escape_eq_empty {s : String} : escape s = "" ↔ s = "" := by
  rw [← String.toList_eq_nil_iff, toList_escape, flatMap_chars_eq_nil, literals,
    List.map_eq_nil_iff, String.toList_eq_nil_iff]

theorem escape_eq_self {s : String} (h : '?' ∉ s.toList) : escape s = s := by
  have hs : ∀ cs : List Char, '?' ∉ cs → escapeChars cs = cs := by
    intro cs hcs
    induction cs with
    | nil => rfl
    | cons c cs ih =>
        simp only [List.mem_cons, not_or] at hcs
        have := ih hcs.2
        simp_all [escapeChars, Mark.chars, Ne.symm hcs.1]
  rw [escape, hs _ h, String.ofList_toList]

theorem escape_append (s t : String) : escape (s ++ t) = escape s ++ escape t := by
  rw [← String.toList_inj]
  simp [literals]

/-- Literal text is read as itself. -/
theorem marks_escape (s : String) : marks (escape s).toList = literals s.toList := by
  rw [toList_escape, marks_flatMap_chars (separated_literals _)]

theorem marks_eq_literals {s : String} (h : '?' ∉ s.toList) :
    marks s.toList = literals s.toList := by
  rw [← marks_escape, escape_eq_self h]

theorem slotCount_escape (s : String) : slotCount (escape s) = 0 := by
  rw [slotCount, marks_escape, count_slot_literals]

/-! ## Ends of texts -/

theorem not_endsInSlot_empty : ¬ EndsInSlot "" := by simp [EndsInSlot, marks]

theorem not_endsInSlot_escape (s : String) : ¬ EndsInSlot (escape s) := by
  rw [EndsInSlot, marks_escape]
  exact getLast?_literals_ne_slot _

/-- A text that ends in literal text does not end in a slot, whatever stands before. -/
theorem not_endsInSlot_append_escape {t : String} (ht : ¬ EndsInSlot t) (s : String) :
    ¬ EndsInSlot (t ++ escape s) := by
  rw [EndsInSlot, String.toList_append, marks_append ht, marks_escape, List.getLast?_append]
  cases h : (literals s.toList).getLast? with
  | none => exact ht
  | some m => exact fun hm => getLast?_literals_ne_slot s.toList (h.trans hm)

theorem not_endsInSlot_append {u : String} (hu : u ≠ "") (hq : '?' ∉ u.toList) (t : String) :
    ¬ EndsInSlot (t ++ u) := by
  intro h
  -- the last character of the text would be the slot
  have hlast : (t ++ u).toList.getLast? = some '?' := by
    obtain ⟨ms, hms⟩ := List.getLast?_eq_some_iff.mp h
    rw [← flatMap_chars_marks (t ++ u).toList, hms, List.flatMap_append]
    simp [Mark.chars]
  rw [String.toList_append, List.getLast?_append] at hlast
  cases hl : u.toList.getLast? with
  | none => exact hu (String.toList_eq_nil_iff.mp (List.getLast?_eq_none_iff.mp hl))
  | some c =>
      obtain rfl : c = '?' := by simpa [hl] using hlast
      exact hq (List.mem_of_getLast? hl)

/-! ## Slots of joined texts -/

theorem quiet_marks {cs : List Char} (h : cs.head? ≠ some '?') : Quiet (marks cs) := by
  cases cs with
  | nil => simp [marks]
  | cons c cs =>
      have hc : c ≠ '?' := by simpa using h
      simp [marks_of_ne hc, Mark.questions, hc]

theorem slotCount_append {s : String} (h : ¬ EndsInSlot s) (t : String) :
    slotCount (s ++ t) = slotCount s + slotCount t := by
  simp only [slotCount, String.toList_append, marks_append h, List.count_append]

/-- A slot at the end of a text is kept if no question mark follows it. -/
theorem marks_append_of_head (t : String) {cs : List Char} (h : cs.head? ≠ some '?') :
    marks (t.toList ++ cs) = marks t.toList ++ marks cs := by
  have hsep := (separated_marks t.toList).append (separated_marks cs) fun _ => quiet_marks h
  rw [← marks_flatMap_chars hsep, List.flatMap_append, flatMap_chars_marks, flatMap_chars_marks]

theorem slotCount_append_of_head (s : String) {t : String} (h : t.toList.head? ≠ some '?') :
    slotCount (s ++ t) = slotCount s + slotCount t := by
  simp only [slotCount, String.toList_append, marks_append_of_head s h, List.count_append]

theorem slotCount_intercalate (n : Nat) :
    slotCount (", ".intercalate (List.replicate n "?")) = n := by
  induction n with
  | zero => rfl
  | succ n ih =>
      cases n with
      | zero => simp [List.replicate, slotCount, marks]
      | succ n =>
          have hcomma : ¬ EndsInSlot ", " := by simp [EndsInSlot, marks]
          rw [List.replicate_succ, List.replicate_succ, String.intercalate_cons_cons,
            ← List.replicate_succ, String.append_assoc, slotCount_append_of_head _ (by simp),
            slotCount_append hcomma, ih]
          simp [slotCount, marks, Nat.add_comm]

end SqlCompose.Neutral
