import SqlCompose.Doc
import SqlCompose.Proofs.Marks

/-!
# Rendering documents

One equation for each way to combine fragments and documents, and when the result has no text. A
document vanishes if everything that could give it text does.
-/

namespace SqlCompose

/-! ## Fragments -/

namespace Fragment

@[simp] theorem sql_empty : empty.sql = "" := rfl
@[simp] theorem args_empty : empty.args = [] := rfl
@[simp] theorem sql_append (f g : Fragment) : (f.append g).sql = f.sql ++ g.sql := rfl
@[simp] theorem args_append (f g : Fragment) : (f.append g).args = f.args ++ g.args := rfl
@[simp] theorem sql_raw (s : String) : (raw s).sql = s := rfl
@[simp] theorem args_raw (s : String) : (raw s).args = [] := rfl
@[simp] theorem sql_pushIdent (f : Fragment) (s : String) :
    (f.pushIdent s).sql = f.sql ++ Neutral.escape s := by
  have step (cs : List Char) (sql : String) :
      (cs.foldl (fun sql c => (if c = '?' then sql.push '?' else sql).push c) sql).toList =
        sql.toList ++ Neutral.escapeChars cs := by
    induction cs generalizing sql with
    | nil => simp [Neutral.escapeChars]
    | cons c cs ih =>
        rw [List.foldl_cons, ih]
        by_cases hc : c = '?' <;> simp [Neutral.escapeChars, Neutral.Mark.chars, hc]
  rw [← String.toList_inj, pushIdent, step, String.toList_append, Neutral.escape,
    String.toList_ofList]

@[simp] theorem args_pushIdent (f : Fragment) (s : String) : (f.pushIdent s).args = f.args := rfl
@[simp] theorem sql_ident (s : String) : (ident s).sql = Neutral.escape s := by simp [ident]
@[simp] theorem args_ident (s : String) : (ident s).args = [] := rfl
@[simp] theorem sql_placeholder (v : Value) : (placeholder v).sql = "?" := rfl
@[simp] theorem args_placeholder (v : Value) : (placeholder v).args = [v] := rfl

theorem ext {f g : Fragment} (hs : f.sql = g.sql) (ha : f.args = g.args) : f = g := by
  cases f; cases g; simp_all

@[simp] theorem empty_append (f : Fragment) : empty.append f = f := by
  apply ext <;> simp

@[simp] theorem append_empty (f : Fragment) : f.append empty = f := by
  apply ext <;> simp

theorem append_assoc (f g h : Fragment) : (f.append g).append h = f.append (g.append h) := by
  apply ext <;> simp [String.append_assoc]

@[simp] theorem pushText_eq (f : Fragment) (s : String) : f.pushText s = f.append (raw s) := by
  apply ext <;> simp [pushText]

theorem raw_append (s t : String) : raw (s ++ t) = (raw s).append (raw t) := rfl

theorem ident_eq_raw {s : String} (h : '?' ∉ s.toList) : ident s = raw s := by
  apply ext
  · rw [sql_ident, Neutral.escape_eq_self h, sql_raw]
  · rfl

/-! ### Rows of fragments -/

theorem foldl_append (f : Fragment) (fs : List Fragment) :
    fs.foldl append f = f.append (fs.foldl append empty) := by
  induction fs generalizing f with
  | nil => simp
  | cons g fs ih =>
      rw [List.foldl_cons, List.foldl_cons, ih (f.append g), ih (empty.append g)]
      simp [append_assoc]

@[simp] theorem concat_nil : concat [] = empty := rfl

@[simp] theorem concat_cons (f : Fragment) (fs : List Fragment) :
    concat (f :: fs) = f.append (concat fs) := by
  rw [concat, List.foldl_cons, foldl_append, empty_append, concat]

@[simp] theorem concat_append (fs gs : List Fragment) :
    concat (fs ++ gs) = (concat fs).append (concat gs) := by
  induction fs with
  | nil => simp
  | cons f fs ih => simp [ih, append_assoc]

/-! ### Emptiness -/

@[simp] theorem isEmpty_empty : empty.isEmpty = true := rfl

@[simp] theorem isEmpty_raw (s : String) : (raw s).isEmpty = s.isEmpty := rfl

@[simp] theorem isEmpty_placeholder (v : Value) : (placeholder v).isEmpty = false := rfl

@[simp] theorem isEmpty_append (f g : Fragment) :
    (f.append g).isEmpty = (f.isEmpty && g.isEmpty) := by
  rw [Bool.eq_iff_iff]
  simp [isEmpty]

@[simp] theorem isEmpty_concat (fs : List Fragment) :
    (concat fs).isEmpty = fs.all isEmpty := by
  induction fs with
  | nil => simp
  | cons f fs ih => simp [ih]

@[simp] theorem isEmpty_ident (s : String) : (ident s).isEmpty = s.isEmpty := by
  rw [Bool.eq_iff_iff]
  simp [isEmpty]

@[simp] theorem isEmpty_parenthesized (f : Fragment) : f.parenthesized.isEmpty = f.isEmpty := by
  rw [Bool.eq_iff_iff]
  by_cases h : f.isEmpty = true <;> simp_all [parenthesized, isEmpty]

/-! ### Parentheses and separators -/

theorem parenthesized_of_not_empty {f : Fragment} (h : f.isEmpty = false) :
    f.parenthesized = (raw "(").append (f.append (raw ")")) := by
  apply ext <;> simp [parenthesized, h, String.append_assoc]

/-- Fragments with text are joined by putting the separator between them. -/
theorem join_eq_concat {fs : List Fragment} (h : ∀ f ∈ fs, f.isEmpty = false) (s : String) :
    join fs s = concat (fs.intersperse (raw s)) := by
  have step (fs : List Fragment) (h : ∀ f ∈ fs, f.isEmpty = false) (out : Fragment)
      (ho : out.isEmpty = false) :
      fs.foldl (fun out f => if f.isEmpty then out else if out.isEmpty then out.append f
        else (out.pushText s).append f) out = concat ((out :: fs).intersperse (raw s)) := by
    induction fs generalizing out with
    | nil => simp
    | cons f fs ih =>
        have hf := h f (by simp)
        rw [List.foldl_cons, ih (fun g hg => h g (by simp [hg])) _ (by simp [hf, ho])]
        cases fs <;> simp [hf, ho, append_assoc]
  cases fs with
  | nil => rfl
  | cons f fs =>
      have hf := h f (by simp)
      simp only [join, List.foldl_cons, hf, isEmpty_empty, empty_append]
      exact step fs (fun g hg => h g (by simp [hg])) f hf

end Fragment

/-! ## Documents -/

namespace Doc

@[simp] theorem renderAll_eq (ds : List Doc) : renderAll ds = ds.map render := by
  induction ds with
  | nil => rfl
  | cons d ds ih => exact congrArg (d.render :: ·) ih

/-- Joined parts are those with text, separated; two or more may stand in parentheses. -/
theorem joinParts_eq (s : String) (group : Bool) (parts : List Fragment) :
    joinParts s group parts =
      let fs := parts.filter (! ·.isEmpty)
      let all := Fragment.concat (fs.intersperse (.raw s))
      if group && 2 ≤ fs.length then all.parenthesized else all := by
  have hne : ∀ f ∈ parts.filter (! ·.isEmpty), f.isEmpty = false := by
    intro f hf
    simpa using (List.mem_filter.mp hf).2
  revert hne
  unfold joinParts
  generalize parts.filter (! ·.isEmpty) = fs
  intro hne
  match fs with
  | [] => simp
  | [f] => simp
  | f :: g :: fs => cases group <;> simp [Fragment.join_eq_concat hne]

theorem joinParts_congr {fs gs : List Fragment}
    (h : fs.filter (! ·.isEmpty) = gs.filter (! ·.isEmpty)) (s : String) (group : Bool) :
    joinParts s group fs = joinParts s group gs := by
  rw [joinParts_eq, joinParts_eq, h]

@[simp] theorem render_text (s : String) : (text s).render = .ident s := rfl

@[simp] theorem render_operator (s : String) : (operator s).render = .raw s := rfl

@[simp] theorem render_bind (v : Value) : (bind v).render = .placeholder v := rfl

@[simp] theorem render_seq (ds : List Doc) : (seq ds).render = .concat (ds.map render) :=
  congrArg Fragment.concat (renderAll_eq ds)

theorem render_joined (s : String) (group : Bool) (ds : List Doc) :
    (joined s group ds).render = joinParts s group (ds.map render) :=
  congrArg (joinParts s group) (renderAll_eq ds)

/-! ### Documents without text -/

def vanishes (d : Doc) : Bool := d.render.isEmpty

theorem render_eq_empty_of_framed {b d a : Doc} (h : d.vanishes = true) :
    (framed b d a).render = .empty := if_pos h

theorem render_framed {b d a : Doc} (h : d.vanishes = false) :
    (framed b d a).render = b.render.append (d.render.append a.render) := by
  rw [← Fragment.append_assoc]
  exact if_neg (Bool.eq_false_iff.mp h)

theorem render_orElse (d e : Doc) :
    (orElse d e).render = if d.vanishes then e.render else d.render := rfl

@[simp] theorem vanishes_text (s : String) : (text s).vanishes = s.isEmpty := by simp [vanishes]

@[simp] theorem vanishes_operator (s : String) : (operator s).vanishes = s.isEmpty := by
  simp [vanishes]

@[simp] theorem vanishes_bind (v : Value) : (bind v).vanishes = false := by simp [vanishes]

@[simp] theorem vanishes_seq (ds : List Doc) : (seq ds).vanishes = ds.all vanishes := by
  simp only [vanishes, render_seq, Fragment.isEmpty_concat, List.all_map]
  rfl

theorem isEmpty_joinParts (s : String) (group : Bool) (parts : List Fragment) :
    (joinParts s group parts).isEmpty = parts.all Fragment.isEmpty := by
  have hall : ∀ fs : List Fragment, (∀ f ∈ fs, f.isEmpty = false) →
      (Fragment.concat (fs.intersperse (.raw s))).isEmpty = fs.isEmpty := by
    intro fs h
    match fs with
    | [] => simp
    | [f] => simpa using h f (by simp)
    | f :: g :: fs => simp [h f (by simp)]
  have hnone : (parts.filter (! ·.isEmpty)).isEmpty = parts.all Fragment.isEmpty := by
    rw [Bool.eq_iff_iff]
    simp [List.filter_eq_nil_iff]
  rw [joinParts_eq, ← hnone]
  simp only
  split <;> simp [hall]

@[simp] theorem vanishes_joined (s : String) (group : Bool) (ds : List Doc) :
    (joined s group ds).vanishes = ds.all vanishes := by
  rw [vanishes, render_joined, isEmpty_joinParts, List.all_map]
  rfl

@[simp] theorem vanishes_framed (b d a : Doc) : (framed b d a).vanishes = d.vanishes := by
  cases h : d.vanishes with
  | true => simp [vanishes, render_eq_empty_of_framed h]
  | false =>
      rw [vanishes, render_framed h]
      simp only [vanishes] at h
      simp [h]

@[simp] theorem vanishes_orElse (d e : Doc) :
    (orElse d e).vanishes = (d.vanishes && e.vanishes) := by
  rw [vanishes, render_orElse]
  cases h : d.vanishes <;> simp_all [vanishes]

@[simp] theorem vanishes_empty : empty.vanishes = true := by simp [empty]

@[simp] theorem vanishes_list (ds : List Doc) : (list ds).vanishes = ds.all vanishes := by
  simp [list]

@[simp] theorem vanishes_clauses (ds : List Doc) : (clauses ds).vanishes = ds.all vanishes := by
  simp [clauses]

@[simp] theorem vanishes_enclosed (o c : String) (d : Doc) :
    (enclosed o c d).vanishes = d.vanishes := by simp [enclosed]

@[simp] theorem vanishes_follow (d e : Doc) : (follow d e).vanishes = d.vanishes := by
  simp [follow]

@[simp] theorem vanishes_lead (e d : Doc) : (lead e d).vanishes = d.vanishes := by simp [lead]

@[simp] theorem vanishes_keyword (w : String) (d : Doc) :
    (keyword w d).vanishes = d.vanishes := by simp [keyword]

@[simp] theorem vanishes_parens (d : Doc) : d.parens.vanishes = d.vanishes := by simp [parens]

@[simp] theorem vanishes_orNull (d : Doc) : d.orNull.vanishes = false := by simp [orNull]

@[simp] theorem vanishes_named (d : Doc) (l : Option String) :
    (d.named l).vanishes = d.vanishes := by cases l <;> simp [named]

/-- Without text there are no values either. -/
theorem render_eq_empty : (d : Doc) → d.vanishes = true → d.render = .empty
  | .text s, h => by
      rw [vanishes_text, String.isEmpty_iff] at h
      subst h
      apply Fragment.ext <;> simp
  | .operator s, h => by
      rw [vanishes_operator, String.isEmpty_iff] at h
      subst h
      simp only [render_operator]
      rfl
  | .bind v, h => by simp at h
  | .seq ds, h => by
      rw [vanishes_seq, List.all_eq_true] at h
      have hds : ∀ f ∈ ds.map render, f = .empty := by
        intro f hf
        obtain ⟨d, hd, rfl⟩ := List.mem_map.mp hf
        exact render_eq_empty d (h d hd)
      rw [render_seq, List.eq_replicate_of_mem hds]
      induction (ds.map render).length with
      | zero => rfl
      | succ n ih => simp [List.replicate_succ, ih]
  | .joined s group ds, h => by
      have hnone : (ds.map render).filter (! ·.isEmpty) = [] := by
        rw [vanishes_joined] at h
        simpa [List.filter_eq_nil_iff, vanishes] using h
      rw [render_joined, joinParts, hnone]
  | .framed b d a, h => render_eq_empty_of_framed (by simpa using h)
  | .orElse d e, h => by
      simp only [vanishes_orElse, Bool.and_eq_true] at h
      rw [render_orElse, if_pos h.1, render_eq_empty e h.2]

theorem render_joined_singleton (s : String) (group : Bool) (d : Doc) :
    (joined s group [d]).render = d.render := by
  rw [render_joined, joinParts_eq]
  cases h : d.vanishes with
  | true => simp [render_eq_empty d h]
  | false =>
      rw [vanishes] at h
      simp [h]

theorem render_list_singleton (d : Doc) : (list [d]).render = d.render :=
  render_joined_singleton ", " false d

end Doc

end SqlCompose
