import SqlCompose.Proofs.Rendering

/-!
# Pieces of text and values

A document as a row of pieces: text, and the values where they are bound. Whatever vanishes takes
its text and its values along, so the row holds just what is written. Writing the row down gives the
document's neutral text.
-/

namespace SqlCompose

/-- A piece of neutral text. -/
inductive Piece where
  | text (s : String)
  /-- Neutral text, copied as it is. -/
  | copied (s : String)
  | value (v : Value)

namespace Piece

def fragment : Piece → Fragment
  | .text s => .ident s
  | .copied s => .raw s
  | .value v => .placeholder v

/-- The neutral text of a row of pieces, with the values. -/
def flatten (ps : List Piece) : Fragment := .concat (ps.map fragment)

def blank (ps : List Piece) : Bool := ps.all (·.fragment.isEmpty)

def value? : Piece → Option Value
  | .value v => some v
  | _ => none

/-- The units that a piece is meant to be read as. -/
def marks : Piece → List Neutral.Mark
  | .text s => Neutral.literals s.toList
  | .copied s => Neutral.literals s.toList
  | .value _ => [.slot]

@[simp] theorem flatten_nil : flatten [] = .empty := rfl

@[simp] theorem flatten_cons (p : Piece) (ps : List Piece) :
    flatten (p :: ps) = p.fragment.append (flatten ps) := by simp [flatten]

@[simp] theorem flatten_append (ps qs : List Piece) :
    flatten (ps ++ qs) = (flatten ps).append (flatten qs) := by simp [flatten]

theorem flatten_flatten (rows : List (List Piece)) :
    flatten rows.flatten = .concat (rows.map flatten) := by
  induction rows with
  | nil => rfl
  | cons ps rows ih => simp [ih]

@[simp] theorem isEmpty_flatten (ps : List Piece) : (flatten ps).isEmpty = blank ps := by
  simp only [flatten, Fragment.isEmpty_concat, List.all_map, blank]
  rfl

theorem args_flatten (ps : List Piece) : (flatten ps).args = ps.filterMap value? := by
  induction ps with
  | nil => rfl
  | cons p ps ih => cases p <;> simp [ih, fragment, value?, List.filterMap_cons]

theorem count_slot_marks (ps : List Piece) :
    (ps.flatMap marks).count .slot = (ps.filterMap value?).length := by
  induction ps with
  | nil => rfl
  | cons p ps ih => cases p <;> simp [ih, marks, value?, List.filterMap_cons]

end Piece

namespace Doc

/-- Rows of pieces with a separator between those that are not blank; two or more in parentheses if
`group` is set. -/
def joinRows (separator : String) (group : Bool) (rows : List (List Piece)) : List Piece :=
  let rows := rows.filter (! Piece.blank ·)
  let all := (rows.intersperse [.copied separator]).flatten
  if group && 2 ≤ rows.length then .copied "(" :: all ++ [.copied ")"] else all

mutual

/-- What a document writes, in its order. -/
def pieces : Doc → List Piece
  | .text s => [.text s]
  | .operator s => [.copied s]
  | .bind v => [.value v]
  | .seq parts => (allPieces parts).flatten
  | .joined separator group parts => joinRows separator group (allPieces parts)
  | .framed before d after =>
    if Piece.blank d.pieces then [] else before.pieces ++ d.pieces ++ after.pieces
  | .orElse d e => if Piece.blank d.pieces then e.pieces else d.pieces

def allPieces : List Doc → List (List Piece)
  | [] => []
  | d :: rest => d.pieces :: allPieces rest

end

@[simp] theorem allPieces_eq (ds : List Doc) : allPieces ds = ds.map pieces := by
  induction ds with
  | nil => simp only [allPieces, List.map_nil]
  | cons d ds ih => simp only [allPieces, ih, List.map_cons]

theorem joinParts_flatten (s : String) (group : Bool) (rows : List (List Piece)) :
    joinParts s group (rows.map Piece.flatten) = Piece.flatten (joinRows s group rows) := by
  have hall (rows : List (List Piece)) :
      Fragment.concat ((rows.map Piece.flatten).intersperse (.raw s)) =
        Piece.flatten (rows.intersperse [.copied s]).flatten := by
    induction rows with
    | nil => rfl
    | cons ps rows ih =>
        cases rows with
        | nil => simp
        | cons qs rows => simp_all [Piece.fragment]
  have hrows : (rows.map Piece.flatten).filter (! ·.isEmpty) =
      (rows.filter (! Piece.blank ·)).map Piece.flatten := by
    rw [List.filter_map]
    simp [Function.comp_def]
  have hshown : ∀ ps ∈ rows.filter (! Piece.blank ·), Piece.blank ps = false := by simp
  rw [joinParts_eq, joinRows, hrows]
  revert hshown
  generalize rows.filter (! Piece.blank ·) = rows
  intro hshown
  simp only [hall, List.length_map]
  match rows with
  | [] => simp
  | [ps] => simp
  | ps :: qs :: rows =>
      have hne : (Piece.flatten ((ps :: qs :: rows).intersperse [.copied s]).flatten).isEmpty =
          false := by
        simp [hshown ps (by simp)]
      cases group with
      | true =>
          have hp := Fragment.parenthesized_of_not_empty hne
          simpa [Piece.fragment, Fragment.append_assoc] using hp
      | false => rfl

/-- The neutral text of a document is that of its pieces. -/
theorem render_eq_flatten : (d : Doc) → d.render = Piece.flatten d.pieces
  | .text s => by simp [pieces, Piece.fragment]
  | .operator s => by simp [pieces, Piece.fragment]
  | .bind v => by simp [pieces, Piece.fragment]
  | .seq ds => by
      have hds : ds.map render = (ds.map pieces).map Piece.flatten := by
        rw [List.map_map]
        exact List.map_congr_left fun d _ => render_eq_flatten d
      rw [render_seq, pieces, allPieces_eq, Piece.flatten_flatten, hds]
  | .joined s group ds => by
      have hds : ds.map render = (ds.map pieces).map Piece.flatten := by
        rw [List.map_map]
        exact List.map_congr_left fun d _ => render_eq_flatten d
      rw [render_joined, pieces, allPieces_eq, hds, joinParts_flatten]
  | .framed b d a => by
      rw [pieces, ← Piece.isEmpty_flatten, ← render_eq_flatten d]
      cases h : d.render.isEmpty with
      | true => simp [render_eq_empty_of_framed (b := b) (a := a) h]
      | false =>
          simp [render_framed (b := b) (a := a) h, render_eq_flatten b, render_eq_flatten d,
            render_eq_flatten a]
  | .orElse d e => by
      rw [pieces, ← Piece.isEmpty_flatten, ← render_eq_flatten d, render_orElse, vanishes]
      cases h : d.render.isEmpty with
      | true => simp [render_eq_flatten e]
      | false => simp [render_eq_flatten d]

end Doc

end SqlCompose
