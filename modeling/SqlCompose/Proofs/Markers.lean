import SqlCompose.Interpolation
import SqlCompose.Proofs.Positions
import SqlCompose.Select

/-!
# Markers as a database reads them

A database that takes `?1`, `?2`, … reads a marker at every question mark, and as its number all the
digits that follow. It cannot know which question marks were slots. The markers it reads are those
of the values, in their order, exactly if no name and no other literal text has a question mark and
no slot stands before a digit.
-/

namespace SqlCompose

/-! ## Reading -/

/-- The digits of the markers in a text, from left to right. -/
def markerDigits : List Char → List (List Char)
  | [] => []
  | c :: rest =>
    if c = '?' then rest.takeWhile Char.isDigit :: markerDigits rest else markerDigits rest

theorem markerDigits_of_ne {c : Char} (h : c ≠ '?') (cs : List Char) :
    markerDigits (c :: cs) = markerDigits cs := if_neg h

theorem markerDigits_question (cs : List Char) :
    markerDigits ('?' :: cs) = cs.takeWhile Char.isDigit :: markerDigits cs := if_pos rfl

theorem markerDigits_append {ds : List Char} (h : '?' ∉ ds) (cs : List Char) :
    markerDigits (ds ++ cs) = markerDigits cs := by
  induction ds with
  | nil => rfl
  | cons d ds ih =>
      rw [List.mem_cons, not_or] at h
      rw [List.cons_append, markerDigits_of_ne (Ne.symm h.1), ih h.2]

namespace Dialect

open Neutral (Mark)

variable {ms : List Mark} {n : Nat}

/-- A marker is read with its own digits and those that happen to follow. -/
theorem markerDigits_placeholder (n : Nat) (cs : List Char) :
    markerDigits (sqlite.placeholder n ++ cs) =
      (Nat.toDigits 10 n ++ cs.takeWhile Char.isDigit) :: markerDigits cs := by
  have hdigits : ∀ c ∈ Nat.toDigits 10 n, c.isDigit = true :=
    fun c hc => Nat.isDigit_of_mem_toDigits (by decide) (by decide) hc
  have hquestion : '?' ∉ Nat.toDigits 10 n := fun h => by simpa using hdigits _ h
  have hspell : sqlite.placeholder n ++ cs = '?' :: (Nat.toDigits 10 n ++ cs) := rfl
  rw [hspell, markerDigits_question, markerDigits_append hquestion,
    List.takeWhile_append_of_pos hdigits]

/-- A slot stands directly before a digit. -/
def DigitAfterSlot (ms : List Mark) : Prop :=
  ∃ c : Char, c.isDigit = true ∧ [.slot, .literal c] <:+: ms

theorem not_digitAfterSlot_nil : ¬ DigitAfterSlot [] := by
  rintro ⟨c, -, h⟩
  simp at h

theorem digitAfterSlot_literal_cons {c : Char} :
    DigitAfterSlot (.literal c :: ms) ↔ DigitAfterSlot ms := by
  simp [DigitAfterSlot, List.infix_cons_iff]

/-- Digits after a slot are literal text, for a marker begins with its sign. -/
theorem digitAfterSlot_slot_cons :
    DigitAfterSlot (.slot :: ms) ↔
      (sqlite.spell n ms).takeWhile Char.isDigit ≠ [] ∨ DigitAfterSlot ms := by
  have hsplit : DigitAfterSlot (.slot :: ms) ↔
      (∃ c : Char, c.isDigit = true ∧ [.literal c] <+: ms) ∨ DigitAfterSlot ms := by
    simp only [DigitAfterSlot, List.infix_cons_iff, List.cons_prefix_cons, true_and, and_or_left,
      exists_or]
  rw [hsplit]
  refine or_congr_left ?_
  cases ms with
  | nil => simp [spell]
  | cons m ms =>
      cases m with
      | slot => simp [spell, placeholder]
      | literal d => simp [spell, List.takeWhile_cons]

/-- As many markers are read as there are slots and literal question marks. -/
theorem length_markerDigits_spell (n : Nat) (ms : List Mark) :
    (markerDigits (sqlite.spell n ms)).length = ms.count .slot + ms.count (.literal '?') := by
  induction ms generalizing n with
  | nil => rfl
  | cons m ms ih =>
      cases m with
      | literal c =>
          rw [spell]
          by_cases hc : c = '?'
          · subst hc
            rw [markerDigits_question, List.length_cons, ih]
            simp [Nat.add_assoc]
          · rw [markerDigits_of_ne hc, ih]
            simp [hc]
      | slot =>
          rw [spell, markerDigits_placeholder, List.length_cons, ih]
          simp [Nat.add_right_comm]

/-- Markers are read as numbered exactly if no digit stands directly behind one. -/
theorem markerDigits_spell_eq_iff (h : .literal '?' ∉ ms) (n : Nat) :
    markerDigits (sqlite.spell n ms) =
        (List.range' (n + 1) (ms.count .slot)).map (Nat.toDigits 10) ↔
      ¬ DigitAfterSlot ms := by
  induction ms generalizing n with
  | nil => exact iff_of_true rfl not_digitAfterSlot_nil
  | cons m ms ih =>
      rw [List.mem_cons, not_or] at h
      cases m with
      | literal c =>
          have hc : c ≠ '?' := fun hc => h.1 (by rw [hc])
          rw [spell, markerDigits_of_ne hc, digitAfterSlot_literal_cons, ← ih h.2 n]
          simp
      | slot =>
          -- the first marker is its number exactly if what follows begins with no digit
          rw [spell, markerDigits_placeholder, digitAfterSlot_slot_cons (n := n + 1), not_or,
            ← ih h.2 (n + 1), List.count_cons_self, List.range'_succ, List.map_cons,
            List.cons.injEq, List.append_right_eq_self, ne_eq, Decidable.not_not]

end Dialect

/-! ## Statements -/

/-- Question marks of the text itself stand in names and in literal text. -/
theorem Piece.question_not_mem_marks {ps : List Piece} (h : Aligned ps) :
    .literal '?' ∉ ps.flatMap marks ↔ ∀ s, .text s ∈ ps → '?' ∉ s.toList := by
  constructor
  · intro hmarks s hs hquestion
    exact hmarks (List.mem_flatMap.mpr ⟨.text s, hs, List.mem_map_of_mem hquestion⟩)
  · intro htexts hmark
    obtain ⟨p, hp, hmark⟩ := List.mem_flatMap.mp hmark
    cases p with
    | text s => exact htexts s hp (by simpa [marks, Neutral.literals] using hmark)
    | copied s => exact h.copied s hp (by simpa [marks, Neutral.literals] using hmark)
    | value v => simp [marks] at hmark

namespace Query

/-- In SQLite's text a marker is read for every value and for every question mark that was written
as text. The markers are those of the values, numbered from one in their order, exactly if no name
and no literal text holds a question mark and no digit stands directly behind a value. -/
theorem sqlite_markers_iff (q : Query) (hdialect : q.dialect = .sqlite)
    (h : ∀ m : Node, m.Within (.query q) → ∀ op ∈ m.operators, '?' ∉ op.toList) :
    (markerDigits q.build.sql.toList).length =
      q.build.args.length + (q.doc.pieces.flatMap Piece.marks).count (.literal '?') ∧
    (markerDigits q.build.sql.toList =
        (List.range' 1 q.build.args.length).map (Nat.toDigits 10) ↔
      (∀ s, .text s ∈ q.doc.pieces → '?' ∉ s.toList) ∧
        ¬ Dialect.DigitAfterSlot (q.doc.pieces.flatMap Piece.marks)) := by
  have halign : Piece.Aligned q.doc.pieces := Node.aligned_of_operators (.query q) h
  have hbody : q.body = Piece.flatten q.doc.pieces := q.doc.render_eq_flatten
  have hsql : q.build.sql.toList = Dialect.sqlite.spell 0 (q.doc.pieces.flatMap Piece.marks) := by
    rw [build, hdialect, Dialect.renumber, String.toList_ofList, hbody, halign.marks_flatten]
  have hargs : q.build.args.length = (q.doc.pieces.flatMap Piece.marks).count .slot := by
    rw [Piece.count_slot_marks, ← Piece.args_flatten, ← hbody]
    rfl
  have hlength := Dialect.length_markerDigits_spell 0 (q.doc.pieces.flatMap Piece.marks)
  rw [hsql, hargs, ← Piece.question_not_mem_marks halign]
  refine ⟨hlength, ?_⟩
  by_cases hquestion : .literal '?' ∈ q.doc.pieces.flatMap Piece.marks
  · -- there are more markers than values
    have hpos := List.count_pos_iff.mpr hquestion
    refine iff_of_false (fun heq => ?_) fun hok => hok.1 hquestion
    rw [heq, List.length_map, List.length_range'] at hlength
    omega
  · rw [Dialect.markerDigits_spell_eq_iff hquestion]
    exact (and_iff_right hquestion).symm

def plainColumn (name : String) : Field := .column name .custom

/-- The first rows in which a column is above a bound. -/
def firstAbove (column : Field) (bound n : Int64) : Query :=
  .select (((((Select.new.run ⟨[]⟩).1.columns [column]).addFilter
    (column.gt (.value (.bigInt bound)))).takeRows n).inDialect .sqlite)

theorem sqlite_markers_of_firstAbove :
    (firstAbove (plainColumn "a") 5 7).build.sql = "SELECT a WHERE a > ?1 LIMIT ?2" ∧
    (markerDigits (firstAbove (plainColumn "a") 5 7).build.sql.toList).length = 2 ∧
    markerDigits (firstAbove (plainColumn "a") 5 7).build.sql.toList = [['1'], ['2']] := by
  have hcolumn : ∀ m : Node, m.Within (.field (plainColumn "a")) →
      ∀ op ∈ m.operators, '?' ∉ op.toList := Node.forall_within rfl nofun nofun
  have hcondition : ∀ m : Node,
      m.Within (.predicate ((plainColumn "a").gt (.value (.bigInt 5)))) → ∀ op ∈ m.operators,
        '?' ∉ op.toList := Node.operators_of_compare (by decide) rfl rfl
  have h : ∀ m : Node, m.Within (.query (firstAbove (plainColumn "a") 5 7)) →
      ∀ op ∈ m.operators, '?' ∉ op.toList :=
    Node.forall_within rfl nofun
      (List.forall_mem_cons.mpr ⟨hcolumn, List.forall_mem_singleton.mpr hcondition⟩)
  have hpieces : (firstAbove (plainColumn "a") 5 7).doc.pieces =
      [.text "SELECT ", .text "a", .copied " ", .text "WHERE ", .text "a", .text "", .text " ",
        .copied ">", .text " ", .value (.bigInt 5), .text "", .text "", .copied " ",
        .text "LIMIT ", .value (.bigInt 7), .text ""] := by rfl
  obtain ⟨hcount, hiff⟩ := sqlite_markers_iff (firstAbove (plainColumn "a") 5 7) rfl h
  refine ⟨by rfl, hcount.trans (by rfl), (hiff.mpr ⟨fun s hs => ?_, ?_⟩).trans (by rfl)⟩
  · have htexts : ∀ t ∈ ["SELECT ", "a", "WHERE ", "a", "", " ", "", "LIMIT ", ""],
        '?' ∉ t.toList := by decide
    exact htexts s (by simpa [hpieces] using hs)
  · -- the only literal behind a value is a space
    rintro ⟨c, hc, hslot⟩
    have hspace : c = ' ' := by
      simpa [hpieces, Piece.marks, Neutral.literals, List.infix_cons_iff] using hslot
    rw [hspace] at hc
    cases hc

/-- The first rows of one column. -/
def firstOf (column : Field) (n : Int64) : Query :=
  .select ((((Select.new.run ⟨[]⟩).1.columns [column]).takeRows n).inDialect .sqlite)

/-- A question mark of a name is read as a marker: the database and the reader of this library both
put the limit into the name. A digit behind a value is read as a digit of its number. -/
theorem question_of_name_is_marker :
    (firstOf (plainColumn "a?1") 7).build.sql = "SELECT a?1 LIMIT ?1" ∧
    (firstOf (plainColumn "a?1") 7).build.args.length = 1 ∧
    markerDigits (firstOf (plainColumn "a?1") 7).build.sql.toList = [['1'], ['1']] ∧
    (firstOf (plainColumn "a?1") 7).build.interpolated = "SELECT a7 LIMIT 7" ∧
    (firstOf (.custom "?0" [.value (.bigInt 5)]) 7).build.sql = "SELECT ?10 LIMIT ?2" ∧
    markerDigits (firstOf (.custom "?0" [.value (.bigInt 5)]) 7).build.sql.toList =
      [['1', '0'], ['2']] := by
  refine ⟨by rfl, by rfl, by rfl, by rfl, by rfl, by rfl⟩

end Query

end SqlCompose
