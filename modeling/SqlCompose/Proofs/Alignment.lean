import SqlCompose.Proofs.Pieces
import SqlCompose.Template

/-!
# Aligned documents

A document is legible if its neutral text is read piece by piece: the literal text as itself, a
value as a slot, and what is copied unescaped as it reads by itself. It is aligned if moreover
nothing that is copied holds a question mark, so that all slots are those of the values. Two legible
rows of pieces may stand next to each other if the first is finished, that is, does not end in a
slot, or if the second is ready, that is, does not begin with a question mark or a slot.
-/

namespace SqlCompose

namespace Piece

/-- A row of pieces whose text is read as the row itself. -/
structure Aligned (ps : List Piece) : Prop where
  copied : ∀ s, .copied s ∈ ps → '?' ∉ s.toList
  separated : Neutral.Separated (ps.flatMap marks)

/-- The units that a piece is read as. -/
def reading : Piece → List Neutral.Mark
  | .text s => Neutral.literals s.toList
  | .copied s => Neutral.marks s.toList
  | .value _ => [.slot]

theorem reading_copied {s : String} (h : '?' ∉ s.toList) :
    reading (.copied s) = Neutral.literals s.toList := Neutral.marks_eq_literals h

/-- What may be copied unescaped; text without question marks may be in any case. -/
structure Copies where
  allows : String → Prop
  plain : ∀ s : String, '?' ∉ s.toList → allows s

/-- A row of pieces whose text is read piece by piece. -/
structure Legible (K : Copies) (ps : List Piece) : Prop where
  copied : ∀ s, .copied s ∈ ps → K.allows s
  separated : Neutral.Separated (ps.flatMap reading)

/-- A row of pieces may follow a slot. -/
def Ready (ps : List Piece) : Prop := Neutral.Quiet (ps.flatMap reading)

/-- A row of pieces does not end in a slot. -/
def Finished (ps : List Piece) : Prop := (ps.flatMap reading).getLast? ≠ some .slot

variable {K : Copies}

theorem toList_flatten (ps : List Piece) :
    (flatten ps).sql.toList = (ps.flatMap reading).flatMap Neutral.Mark.chars := by
  induction ps with
  | nil => rfl
  | cons p ps ih =>
      cases p with
      | text s => simp [fragment, reading, ih]
      | copied s => simp [fragment, reading, ih, Neutral.flatMap_chars_marks]
      | value v => simp [fragment, reading, ih, Neutral.Mark.chars]

theorem Legible.marks_flatten {ps : List Piece} (h : Legible K ps) :
    Neutral.marks (flatten ps).sql.toList = ps.flatMap reading := by
  rw [toList_flatten, Neutral.marks_flatMap_chars h.separated]

/-- Without question marks in what is copied, all slots are those of the values. -/
theorem flatMap_reading {ps : List Piece} (h : ∀ s, .copied s ∈ ps → '?' ∉ s.toList) :
    ps.flatMap reading = ps.flatMap marks := by
  rw [List.flatMap_def, List.flatMap_def]
  refine congrArg List.flatten (List.map_congr_left fun p hp => ?_)
  cases p with
  | text s => rfl
  | copied s => exact reading_copied (h s hp)
  | value v => rfl

/-- The text of an aligned row is read as its units. -/
theorem Aligned.marks_flatten {ps : List Piece} (h : Aligned ps) :
    Neutral.marks (flatten ps).sql.toList = ps.flatMap marks := by
  rw [toList_flatten, flatMap_reading h.copied, Neutral.marks_flatMap_chars h.separated]

theorem Legible.aligned {ps : List Piece} (h : Legible K ps)
    (hK : ∀ s, K.allows s → '?' ∉ s.toList) : Aligned ps := by
  have hcopied : ∀ s, .copied s ∈ ps → '?' ∉ s.toList := fun s hs => hK s (h.copied s hs)
  exact ⟨hcopied, flatMap_reading hcopied ▸ h.separated⟩

theorem legible_nil : Legible K [] := ⟨by simp, trivial⟩

theorem Legible.append {ps qs : List Piece} (hp : Legible K ps) (hq : Legible K qs)
    (h : Finished ps ∨ Ready qs) : Legible K (ps ++ qs) := by
  refine ⟨fun s hs => ?_, ?_⟩
  · rcases List.mem_append.mp hs with hs | hs
    · exact hp.copied s hs
    · exact hq.copied s hs
  · rw [List.flatMap_append]
    refine hp.separated.append hq.separated fun hlast => ?_
    rcases h with h | h
    · exact absurd hlast h
    · exact h

theorem Ready.append {ps qs : List Piece} (hp : Ready ps) (hq : Ready qs) : Ready (ps ++ qs) := by
  rw [Ready, List.flatMap_append]
  exact Neutral.Quiet.append hp hq

theorem legible_text (s : String) : Legible K [.text s] :=
  ⟨by simp, by simpa [reading] using Neutral.separated_literals s.toList⟩

theorem legible_copied {s : String} (h : K.allows s) : Legible K [.copied s] :=
  ⟨by simpa using h, by simpa [reading] using Neutral.separated_marks s.toList⟩

theorem legible_value (v : Value) : Legible K [.value v] := ⟨by simp, by simp [reading]⟩

theorem finished_nil : Finished [] := by simp [Finished]

theorem finished_text (s : String) : Finished [.text s] := by
  simpa [Finished, reading] using Neutral.getLast?_literals_ne_slot s.toList

theorem finished_copied {s : String} (h : '?' ∉ s.toList) : Finished [.copied s] := by
  simpa [Finished, reading_copied h] using Neutral.getLast?_literals_ne_slot s.toList

theorem finished_append_text (ps : List Piece) {s : String} (h : s ≠ "") :
    Finished (ps ++ [.text s]) := by
  have hs : Neutral.literals s.toList ≠ [] := by simpa [Neutral.literals] using h
  have hlast := Neutral.getLast?_literals_ne_slot s.toList
  obtain ⟨m, hm⟩ := Option.ne_none_iff_exists'.mp (mt List.getLast?_eq_none_iff.mp hs)
  rw [hm] at hlast
  simpa [Finished, reading, List.getLast?_append, hm] using hlast

theorem ready_nil : Ready [] := by simp [Ready]

theorem ready_text {s : String} (h : s.toList.head? ≠ some '?') : Ready [.text s] := by
  simpa [Ready, reading] using Neutral.quiet_literals h

theorem ready_text_append {s : String} (hs : s ≠ "") (h : s.toList.head? ≠ some '?')
    (ps : List Piece) : Ready (.text s :: ps) := by
  cases hl : s.toList with
  | nil => exact absurd (String.toList_eq_nil_iff.mp hl) hs
  | cons c cs => simpa [Ready, reading, hl, Neutral.literals, Neutral.Mark.questions] using h

theorem ready_copied_append {s : String} (hs : s ≠ "") (h : '?' ∉ s.toList) (ps : List Piece) :
    Ready (.copied s :: ps) := by
  have hread : (Piece.copied s :: ps).flatMap reading = (.text s :: ps).flatMap reading := by
    rw [List.flatMap_cons, List.flatMap_cons, reading_copied h]
    rfl
  rw [Ready, hread]
  exact ready_text_append hs (fun hc => h (List.mem_of_mem_head? hc)) ps

theorem legible_intersperse {rows : List (List Piece)} (h : ∀ ps ∈ rows, Legible K ps) {s : String}
    (hs : s ≠ "") (hq : '?' ∉ s.toList) : Legible K (rows.intersperse [.copied s]).flatten := by
  induction rows with
  | nil => exact legible_nil
  | cons ps rows ih =>
      obtain ⟨hp, hrows⟩ := List.forall_mem_cons.mp h
      cases rows with
      | nil => simpa using hp
      | cons qs rows =>
          have hrest := (legible_copied (K.plain s hq)).append (ih hrows)
            (.inl (finished_copied hq))
          simpa using hp.append hrest (.inr (ready_copied_append hs hq _))

end Piece

namespace Doc

def Aligned (d : Doc) : Prop := Piece.Aligned d.pieces

def Legible (K : Piece.Copies) (d : Doc) : Prop := Piece.Legible K d.pieces

def Ready (d : Doc) : Prop := Piece.Ready d.pieces

def Finished (d : Doc) : Prop := Piece.Finished d.pieces

variable {K : Piece.Copies}

theorem pieces_seq_cons (d : Doc) (ds : List Doc) :
    (seq (d :: ds)).pieces = d.pieces ++ (seq ds).pieces := by simp [pieces]

theorem legible_text (s : String) : (text s).Legible K := by
  simpa [Legible, pieces] using Piece.legible_text s

theorem legible_operator {s : String} (h : K.allows s) : (operator s).Legible K := by
  simpa [Legible, pieces] using Piece.legible_copied h

theorem legible_bind (v : Value) : (bind v).Legible K := by
  simpa [Legible, pieces] using Piece.legible_value v

theorem legible_empty : empty.Legible K := by
  simpa [Legible, empty, pieces] using Piece.legible_nil

theorem ready_text {s : String} (h : s.toList.head? ≠ some '?') : (text s).Ready := by
  simpa [Ready, pieces] using Piece.ready_text h

theorem ready_empty : empty.Ready := by
  simpa [Ready, empty, pieces] using Piece.ready_nil

theorem finished_text (s : String) : (text s).Finished := by
  simpa [Finished, pieces] using Piece.finished_text s

theorem finished_empty : empty.Finished := by
  simpa [Finished, empty, pieces] using Piece.finished_nil

/-! ## Rows -/

theorem Legible.cons {d : Doc} {ds : List Doc} (hd : d.Legible K) (hds : (seq ds).Legible K)
    (h : d.Finished ∨ (seq ds).Ready) : (seq (d :: ds)).Legible K := by
  rw [Legible, pieces_seq_cons]
  exact Piece.Legible.append hd hds h

theorem Legible.alone {d : Doc} (h : d.Legible K) : (seq [d]).Legible K :=
  h.cons legible_empty (.inr ready_empty)

theorem Legible.text_cons {ds : List Doc} (h : (seq ds).Legible K) (s : String) :
    (seq (.text s :: ds)).Legible K :=
  (legible_text s).cons h (.inl (finished_text s))

/-- An operator may end in a slot of its own. -/
theorem Legible.operator_cons {ds : List Doc} (h : (seq ds).Legible K) (hr : (seq ds).Ready)
    {s : String} (hs : K.allows s) : (seq (.operator s :: ds)).Legible K :=
  (legible_operator hs).cons h (.inr hr)

theorem ready_seq {ds : List Doc} (h : ∀ d ∈ ds, d.Ready) : (seq ds).Ready := by
  induction ds with
  | nil => exact ready_empty
  | cons d ds ih =>
      obtain ⟨hd, hds⟩ := List.forall_mem_cons.mp h
      rw [Ready, pieces_seq_cons]
      exact Piece.Ready.append hd (ih hds)

/-- A document may follow another one that ends in a value if it is ready. -/
theorem Legible.pair {d e : Doc} (hd : d.Legible K) (he : e.Legible K) (hr : e.Ready) :
    (seq [d, e]).Legible K :=
  hd.cons he.alone (.inr (ready_seq (List.forall_mem_singleton.mpr hr)))

theorem ready_text_cons {s : String} (hs : s ≠ "") (h : s.toList.head? ≠ some '?')
    (ds : List Doc) : (seq (.text s :: ds)).Ready := by
  rw [Ready, pieces_seq_cons, pieces]
  exact Piece.ready_text_append hs h _

theorem Legible.cons_text {d : Doc} {ds : List Doc} (hd : d.Legible K) (hds : (seq ds).Legible K)
    {s : String} (hs : s ≠ "") (h : s.toList.head? ≠ some '?') :
    (seq (d :: .text s :: ds)).Legible K :=
  hd.cons (hds.text_cons s) (.inr (ready_text_cons hs h ds))

theorem finished_seq_text (d : Doc) {s : String} (h : s ≠ "") : (seq [d, .text s]).Finished := by
  have hp : (seq [d, .text s]).pieces = d.pieces ++ [.text s] := by simp [pieces]
  rw [Finished, hp]
  exact Piece.finished_append_text _ h

theorem legible_seq {ds : List Doc} (h : ∀ d ∈ ds, d.Legible K ∧ d.Ready) : (seq ds).Legible K := by
  induction ds with
  | nil => exact legible_empty
  | cons d ds ih =>
      obtain ⟨hd, hds⟩ := List.forall_mem_cons.mp h
      exact hd.1.cons (ih hds) (.inr (ready_seq fun d hd => (hds d hd).2))

theorem legible_joined {ds : List Doc} (h : ∀ d ∈ ds, d.Legible K) {s : String} (hs : s ≠ "")
    (hq : '?' ∉ s.toList) (group : Bool) : (joined s group ds).Legible K := by
  have hrows : ∀ ps ∈ (ds.map pieces).filter (! Piece.blank ·), Piece.Legible K ps := by
    intro ps hps
    obtain ⟨d, hd, rfl⟩ := List.mem_map.mp (List.mem_filter.mp hps).1
    exact h d hd
  have hall := Piece.legible_intersperse hrows hs hq
  rw [Legible, pieces, allPieces_eq, joinRows]
  split
  · have hclosed := hall.append (Piece.legible_copied (K.plain ")" (by simp)))
      (.inr (Piece.ready_copied_append (by simp) (by simp) []))
    exact (Piece.legible_copied (K.plain "(" (by simp))).append hclosed
      (.inl (Piece.finished_copied (by simp)))
  · exact hall

theorem legible_list {ds : List Doc} (h : ∀ d ∈ ds, d.Legible K) : (list ds).Legible K :=
  legible_joined h (by simp) (by simp) false

theorem legible_clauses {ds : List Doc} (h : ∀ d ∈ ds, d.Legible K) : (clauses ds).Legible K :=
  legible_joined h (by simp) (by simp) false

/-! ## Frames -/

theorem legible_framed {b d a : Doc} (hb : b.Legible K) (hf : b.Finished) (hd : d.Legible K)
    (ha : a.Legible K) (hr : a.Ready) : (framed b d a).Legible K := by
  rw [Legible, pieces]
  split
  · exact Piece.legible_nil
  · rw [List.append_assoc]
    exact Piece.Legible.append hb (Piece.Legible.append hd ha (.inr hr)) (.inl hf)

theorem legible_enclosed {d : Doc} (h : d.Legible K) (o : String) {c : String}
    (hc : c.toList.head? ≠ some '?') : (enclosed o c d).Legible K :=
  legible_framed (legible_text o) (finished_text o) h (legible_text c) (ready_text hc)

theorem legible_keyword {d : Doc} (h : d.Legible K) (w : String) : (keyword w d).Legible K :=
  legible_enclosed h _ (by simp)

theorem legible_parens {d : Doc} (h : d.Legible K) : d.parens.Legible K :=
  legible_enclosed h _ (by simp)

theorem legible_follow {d e : Doc} (hd : d.Legible K) (he : e.Legible K) (hr : e.Ready) :
    (follow d e).Legible K :=
  legible_framed legible_empty finished_empty hd he hr

theorem legible_named {d : Doc} (h : d.Legible K) (l : Option String) : (d.named l).Legible K := by
  cases l with
  | none => exact h
  | some name => exact legible_follow h (legible_text _) (ready_text (by simp))

theorem legible_orElse {d e : Doc} (hd : d.Legible K) (he : e.Legible K) :
    (orElse d e).Legible K := by
  rw [Legible, pieces]
  split
  · exact he
  · exact hd

theorem legible_orNull {d : Doc} (h : d.Legible K) : d.orNull.Legible K :=
  legible_orElse h (legible_text _)

theorem ready_enclosed {o : String} (ho : o ≠ "") (h : o.toList.head? ≠ some '?') (c : String)
    (d : Doc) : (enclosed o c d).Ready := by
  rw [Ready, enclosed, pieces]
  split
  · exact Piece.ready_nil
  · rw [pieces, List.append_assoc]
    exact Piece.ready_text_append ho h _

theorem finished_enclosed (o : String) {c : String} (hc : c ≠ "") (d : Doc) :
    (enclosed o c d).Finished := by
  rw [Finished, enclosed, pieces]
  split
  · exact Piece.finished_nil
  · have hlast : (text c).pieces = [.text c] := by simp [pieces]
    rw [hlast]
    exact Piece.finished_append_text _ hc

end Doc

namespace Template

/-! ## Templates -/

variable {K : Piece.Copies}

/-- What follows a slot in a template is ready, since it is read as another unit. -/
theorem ready_fill {ms : List Neutral.Mark} {args : List (Option Doc)} {parts : List Doc}
    (hf : fill ms args = some parts) (h : Neutral.Quiet ms) : (Doc.seq parts).Ready := by
  cases ms with
  | nil =>
      obtain rfl : [] = parts := by simpa [fill] using hf
      exact Doc.ready_empty
  | cons m ms =>
      cases m with
      | slot => simp [Neutral.Mark.questions] at h
      | literal c =>
          obtain ⟨rest, _, rfl⟩ := by simpa [fill] using hf
          have hc : c ≠ '?' := by simpa [Neutral.Mark.questions] using h
          exact Doc.ready_text_cons (by simp) (by simpa using hc) rest

theorem legible_fill {ms : List Neutral.Mark} (h : Neutral.Separated ms)
    {args : List (Option Doc)} (ha : ∀ d, some d ∈ args → d.Legible K) {parts : List Doc}
    (hf : fill ms args = some parts) : (Doc.seq parts).Legible K := by
  induction ms generalizing args parts with
  | nil =>
      obtain rfl : [] = parts := by simpa [fill] using hf
      exact Doc.legible_empty
  | cons m ms ih =>
      cases m with
      | literal c =>
          obtain ⟨rest, hrest, rfl⟩ := by simpa [fill] using hf
          exact (ih h.2 ha hrest).text_cons _
      | slot =>
          -- no question mark follows a slot of the template, so its content may end in a value
          have hq := h.1 rfl
          match args with
          | [] =>
              obtain ⟨rest, hrest, rfl⟩ := by simpa [fill] using hf
              exact (ih h.2 ha hrest).text_cons _
          | none :: args => simp [fill] at hf
          | some d :: args =>
              obtain ⟨rest, hrest, rfl⟩ := by simpa [fill] using hf
              have hargs : ∀ d, some d ∈ args → d.Legible K := fun d hd =>
                ha d (List.mem_cons_of_mem _ hd)
              exact (ha d (by simp)).cons (ih h.2 hargs hrest) (.inr (ready_fill hrest hq))

theorem legible_doc (template : String) {args : List (Option Doc)}
    (h : ∀ d, some d ∈ args → d.Legible K) : (doc template args).Legible K := by
  unfold doc
  split
  · rename_i parts hf
    exact legible_fill (Neutral.separated_marks _) h hf
  · exact Doc.legible_empty

end Template

end SqlCompose
