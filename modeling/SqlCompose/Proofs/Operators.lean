import SqlCompose.Proofs.Positions
import SqlCompose.Select

/-!
# Operators in the text

Operators are the only words of the caller that are copied unescaped. In the numbered text one that
holds a question mark does not stand as it is: a doubled question mark loses its double, and a lone
one turns into a marker that no value belongs to, so that all markers behind it are those of the
wrong values. All other operators stand as they are, and every marker is that of its value.
-/

namespace SqlCompose

/-! ## Question marks -/

namespace Neutral

theorem count_question (cs : List Char) :
    cs.count '?' = (marks cs).count .slot + 2 * (marks cs).count (.literal '?') := by
  rw [← count_flatMap_chars, flatMap_chars_marks]

end Neutral

namespace Dialect

theorem question_not_mem_placeholder (n : Nat) : '?' ∉ postgres.placeholder n := by
  intro h
  rcases List.mem_cons.mp h with h | h
  · exact absurd h (by decide)
  · exact absurd (Nat.isDigit_of_mem_toDigits (by decide) (by decide) h) (by decide)

/-- Numbered text holds just the question marks that are meant literally. -/
theorem count_question_spell (n : Nat) (ms : List Neutral.Mark) :
    (postgres.spell n ms).count '?' = ms.count (.literal '?') := by
  induction ms generalizing n with
  | nil => rfl
  | cons m ms ih =>
      cases m with
      | slot =>
          have hmarker := List.count_eq_zero.mpr (question_not_mem_placeholder (n + 1))
          simp [spell, List.count_append, hmarker, ih]
      | literal c => by_cases hc : c = '?' <;> simp [spell, hc, ih]

/-- Copied text loses a question mark for each literal one and each slot. -/
theorem question_not_mem_of_count {n : Nat} {cs : List Char}
    (h : (postgres.spell n (Neutral.marks cs)).count '?' = cs.count '?') : '?' ∉ cs := by
  have hread := Neutral.count_question cs
  rw [count_question_spell] at h
  exact List.count_eq_zero.mp (by omega)

theorem spell_marks_eq_iff (n : Nat) (s : String) :
    postgres.spell n (Neutral.marks s.toList) = s.toList ↔ '?' ∉ s.toList := by
  constructor
  · intro h
    exact question_not_mem_of_count (congrArg (List.count '?') h)
  · intro h
    rw [Neutral.marks_eq_literals h, spell_literals]

end Dialect

/-! ## Pieces in numbered text -/

namespace Piece

def values (ps : List Piece) : Nat := (ps.filterMap value?).length

/-- The slots that no value is bound to: those of what is copied. -/
def strays : List Piece → Nat
  | [] => 0
  | .copied s :: ps => Neutral.slotCount s + strays ps
  | _ :: ps => strays ps

/-- All slots of a row. -/
def slots (ps : List Piece) : Nat := values ps + strays ps

/-- What a row of pieces becomes behind `n` markers. -/
def numbered (n : Nat) (ps : List Piece) : List Char :=
  Dialect.postgres.spell n (ps.flatMap reading)

theorem count_slot_reading (ps : List Piece) :
    (ps.flatMap reading).count .slot = slots ps := by
  rw [slots]
  induction ps with
  | nil => rfl
  | cons p ps ih =>
      rw [List.flatMap_cons, List.count_append, ih]
      cases p with
      | text s => simp [reading, values, strays, value?, List.filterMap_cons]
      | copied s =>
          have hvalues : values (.copied s :: ps) = values ps := rfl
          rw [hvalues, strays, reading, ← Neutral.slotCount]
          omega
      | value v =>
          simp [reading, values, strays, value?]
          omega

theorem numbered_append (n : Nat) (ps qs : List Piece) :
    numbered n (ps ++ qs) = numbered n ps ++ numbered (n + slots ps) qs := by
  rw [numbered, List.flatMap_append, Dialect.spell_append, count_slot_reading]
  rfl

theorem numbered_cons (n : Nat) (p : Piece) (ps : List Piece) :
    numbered n (p :: ps) =
      Dialect.postgres.spell n p.reading ++ numbered (n + p.reading.count .slot) ps := by
  rw [numbered, List.flatMap_cons, Dialect.spell_append]
  rfl

theorem numbered_value_cons (n : Nat) (v : Value) (ps : List Piece) :
    numbered n (.value v :: ps) = Dialect.postgres.placeholder (n + 1) ++ numbered (n + 1) ps := by
  simp [numbered_cons, reading, Dialect.spell]

theorem count_question_numbered (n : Nat) (ps : List Piece) :
    (numbered n ps).count '?' = (ps.flatMap reading).count (.literal '?') :=
  Dialect.count_question_spell n _

theorem getElem?_values (before : List Piece) (v : Value) (after : List Piece) :
    ((before ++ .value v :: after).filterMap value?)[values before]? = some v := by
  simp [values, value?]

/-- Copied text without question marks has no slots. -/
theorem slots_eq_values {ps : List Piece} (h : ∀ s, .copied s ∈ ps → '?' ∉ s.toList) :
    slots ps = values ps := by
  rw [← count_slot_reading, flatMap_reading h, count_slot_marks]
  rfl

end Piece

/-! ## Predicates with an operator -/

namespace Predicate

/-- What a predicate writes before its operator, the operator, and what it writes behind it. -/
def around (e : Exclude) : Predicate → Option (List Piece × String × List Piece)
  | .unary operand op => some ((operandDoc e operand).pieces ++ [.text " "], op, [])
  | .binary lhs op rhs =>
    some ((operandDoc e lhs).pieces ++ [.text " "], op, .text " " :: (operandDoc e rhs).pieces)
  | .ternary operand op low high =>
    some ((operandDoc e operand).pieces ++ [.text " "], op,
      .text " " :: (operandDoc e low).pieces ++ .text " AND " :: (operandDoc e high).pieces)
  | _ => none

theorem pieces_of_around {p : Predicate} {e : Exclude} {left right : List Piece} {op : String}
    (h : p.around e = some (left, op, right)) (whole : Bool) :
    (p.doc e whole).pieces = left ++ .copied op :: right := by
  cases p with
  | unary operand op' =>
      obtain ⟨rfl, rfl, rfl⟩ := by simpa [around] using h
      simp [doc, Doc.pieces]
  | binary lhs op' rhs =>
      obtain ⟨rfl, rfl, rfl⟩ := by simpa [around] using h
      simp [doc, Doc.pieces]
  | ternary operand op' low high =>
      obtain ⟨rfl, rfl, rfl⟩ := by simpa [around] using h
      simp [doc, Doc.pieces]
  | group c ms t => simp [around] at h
  | negation p => simp [around] at h
  | existence q negated => simp [around] at h
  | custom template args => simp [around] at h

end Predicate

/-! ## Statements -/

namespace Query

/-- The operators stand in the text of a statement as they are, and its markers are those of its
values. -/
structure OperatorsLiteral (q : Query) : Prop where
  verbatim : ∀ before op after, q.doc.pieces = before ++ .copied op :: after →
    q.build.sql.toList = Piece.numbered 0 before ++ op.toList ++
      Piece.numbered (Piece.values before) after
  bound : ∀ before v after, q.doc.pieces = before ++ .value v :: after →
    q.build.args[Piece.values before]? = some v ∧
    q.build.sql.toList = Piece.numbered 0 before ++
      Dialect.postgres.placeholder (Piece.values before + 1) ++
      Piece.numbered (Piece.values before + 1) after
  markers : (Dialect.number 0 (Neutral.marks q.body.sql.toList)).filterMap Dialect.Sign.number? =
    List.range' 1 q.build.args.length

/-- What may be copied into a statement with question marks: its operators. -/
def copies (q : Query) : Piece.Copies where
  allows s := '?' ∉ s.toList ∨ ∃ m : Node, m.Within (.query q) ∧ s ∈ m.operators
  plain _ h := .inl h

theorem legible_pieces (q : Query) : Piece.Legible q.copies q.doc.pieces :=
  Node.legible_of_operators q.copies (.query q) fun m hm _ hop => .inr ⟨m, hm, hop⟩

theorem marks_body (q : Query) :
    Neutral.marks q.body.sql.toList = q.doc.pieces.flatMap Piece.reading := by
  rw [body, q.doc.render_eq_flatten]
  exact q.legible_pieces.marks_flatten

theorem args_build (q : Query) : q.build.args = q.doc.pieces.filterMap Piece.value? := by
  rw [← Piece.args_flatten, ← q.doc.render_eq_flatten]
  rfl

theorem toList_build {q : Query} (h : q.dialect = .postgres) :
    q.build.sql.toList = Piece.numbered 0 q.doc.pieces := by
  rw [build, h, Dialect.renumber, String.toList_ofList, marks_body]
  rfl

theorem toList_build_copied {q : Query} (h : q.dialect = .postgres) {before after : List Piece}
    {op : String} (hq : q.doc.pieces = before ++ .copied op :: after) :
    q.build.sql.toList = Piece.numbered 0 before ++
      Dialect.postgres.spell (Piece.slots before) (Neutral.marks op.toList) ++
      Piece.numbered (Piece.slots before + Neutral.slotCount op) after := by
  rw [toList_build h, hq, Piece.numbered_append, Piece.numbered_cons, Nat.zero_add,
    List.append_assoc]
  rfl

theorem toList_build_value {q : Query} (h : q.dialect = .postgres) {before after : List Piece}
    {v : Value} (hq : q.doc.pieces = before ++ .value v :: after) :
    q.build.sql.toList = Piece.numbered 0 before ++
      Dialect.postgres.placeholder (Piece.slots before + 1) ++
      Piece.numbered (Piece.slots before + 1) after := by
  rw [toList_build h, hq, Piece.numbered_append, Piece.numbered_value_cons, Nat.zero_add,
    List.append_assoc]

theorem getElem?_args {q : Query} {before after : List Piece} {v : Value}
    (hq : q.doc.pieces = before ++ .value v :: after) :
    q.build.args[Piece.values before]? = some v := by
  rw [args_build, hq, Piece.getElem?_values]

theorem markers_build (q : Query) :
    (Dialect.number 0 (Neutral.marks q.body.sql.toList)).filterMap Dialect.Sign.number? =
      List.range' 1 (Piece.slots q.doc.pieces) := by
  rw [Dialect.filterMap_number, marks_body, Piece.count_slot_reading]

theorem operatorsLiteral_iff {q : Query} (h : q.dialect = .postgres) :
    q.OperatorsLiteral ↔ ∀ op, .copied op ∈ q.doc.pieces → '?' ∉ op.toList := by
  constructor
  · intro hq op hop
    -- the question marks of the text are those of the operator and of what is around it
    obtain ⟨before, after, hpieces⟩ := List.append_of_mem hop
    have htext := toList_build_copied h hpieces
    rw [hq.verbatim before op after hpieces] at htext
    have hcount := congrArg (List.count '?') htext
    simp only [List.count_append, Piece.count_question_numbered] at hcount
    refine Dialect.question_not_mem_of_count (n := Piece.slots before) ?_
    omega
  · intro hplain
    have hbefore {before after : List Piece} {p : Piece}
        (hpieces : q.doc.pieces = before ++ p :: after) :
        Piece.slots before = Piece.values before :=
      Piece.slots_eq_values fun s hs => hplain s (by simp [hpieces, hs])
    refine ⟨fun before op after hpieces => ?_, fun before v after hpieces => ?_, ?_⟩
    · have hop : '?' ∉ op.toList := hplain op (by simp [hpieces])
      have hslots : Neutral.slotCount op = 0 := by
        rw [Neutral.slotCount, Neutral.marks_eq_literals hop, Neutral.count_slot_literals]
      rw [toList_build_copied h hpieces, hbefore hpieces, hslots,
        (Dialect.spell_marks_eq_iff _ op).mpr hop]
      rfl
    · refine ⟨getElem?_args hpieces, ?_⟩
      rw [toList_build_value h hpieces, hbefore hpieces]
    · rw [markers_build, Piece.slots_eq_values hplain, args_build]
      rfl

/-- In a statement for Postgres an operator stands between its operands as it is exactly if it holds
no question mark. Each lone question mark of an operator is a marker too many, and moves the markers
behind it by one. So operators are literal text, and the markers are those of the values, exactly in
the statements that write no operator with a question mark. -/
theorem operators_verbatim_iff (q : Query) (h : q.dialect = .postgres) :
    (∀ (p : Predicate) e whole left op right before after,
      p.around e = some (left, op, right) →
      q.doc.pieces = before ++ (p.doc e whole).pieces ++ after →
      ∃ s,
        q.build.sql.toList = Piece.numbered 0 (before ++ left) ++ s ++
          Piece.numbered (Piece.slots (before ++ left) + Neutral.slotCount op) (right ++ after) ∧
        (s = op.toList ↔ '?' ∉ op.toList)) ∧
    (∀ before v after, q.doc.pieces = before ++ .value v :: after →
      q.build.args[Piece.values before]? = some v ∧
      q.build.sql.toList = Piece.numbered 0 before ++
        Dialect.postgres.placeholder (Piece.slots before + 1) ++
        Piece.numbered (Piece.slots before + 1) after) ∧
    (Dialect.number 0 (Neutral.marks q.body.sql.toList)).filterMap Dialect.Sign.number? =
      List.range' 1 (q.build.args.length + Piece.strays q.doc.pieces) ∧
    (∀ op, .copied op ∈ q.doc.pieces → '?' ∈ op.toList →
      ∃ m : Node, m.Within (.query q) ∧ op ∈ m.operators) ∧
    (q.OperatorsLiteral ↔ ∀ op, .copied op ∈ q.doc.pieces → '?' ∉ op.toList) := by
  refine ⟨fun p e whole left op right before after hp hq => ?_,
    fun before v after hq => ⟨getElem?_args hq, toList_build_value h hq⟩, ?_,
    fun op hop hquestion => ?_, operatorsLiteral_iff h⟩
  · have hpieces : q.doc.pieces = (before ++ left) ++ .copied op :: (right ++ after) := by
      rw [hq, Predicate.pieces_of_around hp]
      simp
    exact ⟨_, toList_build_copied h hpieces, Dialect.spell_marks_eq_iff _ op⟩
  · rw [markers_build, args_build]
    rfl
  · exact (q.legible_pieces.copied op hop).resolve_left (absurd hquestion)

/-- The rows whose data holds a key, up to a limit. -/
def rowsWithKey (op key : String) (limit : Int64) : Query :=
  .select (((Select.new.run ⟨[]⟩).1.addFilter (.binary (some (.column "data" .custom)) op
    (some (.value (.text key))))).takeRows limit)

theorem contains_stands_verbatim :
    (rowsWithKey "@>" "k" 7).dialect = .postgres ∧
    (rowsWithKey "@>" "k" 7).build.sql = "SELECT * WHERE data @> $1 LIMIT $2" ∧
    (rowsWithKey "@>" "k" 7).OperatorsLiteral := by
  obtain ⟨_, _, _, _, hiff⟩ := operators_verbatim_iff (rowsWithKey "@>" "k" 7) rfl
  refine ⟨rfl, by rfl, hiff.mpr fun op hop => ?_⟩
  have hpieces : (rowsWithKey "@>" "k" 7).doc.pieces =
      [.text "SELECT ", .text "*", .copied " ", .text "WHERE ", .text "data", .text "", .text " ",
        .copied "@>", .text " ", .value (.text "k"), .text "", .text "", .copied " ",
        .text "LIMIT ", .value (.bigInt 7), .text ""] := by rfl
  obtain rfl | rfl | rfl : op = " " ∨ op = "@>" ∨ op = " " := by simpa [hpieces] using hop
  · decide
  · decide
  · decide

/-- The key-exists operators of Postgres take a marker of their own, the first one, and the value of
the limit is lost. -/
theorem question_operator_takes_marker :
    (rowsWithKey "?" "k" 7).build.sql = "SELECT * WHERE data $1 $2 LIMIT $3" ∧
    (rowsWithKey "?|" "k" 7).build.sql = "SELECT * WHERE data $1| $2 LIMIT $3" ∧
    (rowsWithKey "?&" "k" 7).build.sql = "SELECT * WHERE data $1& $2 LIMIT $3" ∧
    (rowsWithKey "??" "k" 7).build.sql = "SELECT * WHERE data ? $1 LIMIT $2" ∧
    (rowsWithKey "?" "k" 7).build.args.length = 2 := by
  refine ⟨by rfl, by rfl, by rfl, by rfl, by rfl⟩

end Query

end SqlCompose
