import SqlCompose.Proofs.Literal

/-!
# Operator expressions

Trees of operators over columns, and how they are written. Arithmetic stands in parentheses and a
conversion in those of `CAST`; concatenations, accesses to JSON data and collations are written one
after another without any. What is left of a tree is a row: the first operand and what follows it.
-/

namespace SqlCompose

/-! ## Trees -/

def isWordChar (c : Char) : Bool := c.isAlphanum || c == '_'

/-- A plain name: letters, digits and underscores. -/
structure Identifier where
  chars : List Char
  ne_nil : chars ≠ []
  word : ∀ c ∈ chars, isWordChar c = true

namespace Identifier

def text (i : Identifier) : String := String.ofList i.chars

protected theorem ext {i i' : Identifier} (h : i.chars = i'.chars) : i = i' := by
  cases i
  cases i'
  cases h
  rfl

theorem not_mem {c : Char} (h : isWordChar c = false) (i : Identifier) : c ∉ i.chars := by
  intro hc
  rw [i.word c hc] at h
  cases h

theorem no_question (i : Identifier) : '?' ∉ i.chars := i.not_mem (by decide)

theorem isEmpty_text (i : Identifier) : i.text.isEmpty = false := by
  rw [Bool.eq_false_iff, Ne, String.isEmpty_iff, ← String.toList_eq_nil_iff, text,
    String.toList_ofList]
  exact i.ne_nil

end Identifier

/-- The operators that are written in parentheses. -/
inductive Arithmetic where
  | add
  | sub
  | mul
  | div
  | modulo
  deriving DecidableEq

/-- The operators that are written without parentheses. -/
inductive Link where
  | concat
  | jsonGet
  | jsonGetText
  deriving DecidableEq

inductive Operation where
  | column (qualifier : Option Identifier) (name : Identifier)
  | arithmetic (op : Arithmetic) (lhs rhs : Operation)
  | link (op : Link) (lhs rhs : Operation)
  | collate (operand : Operation) (collation : Identifier)
  | cast (operand : Operation) (sqlType : Identifier)

def Arithmetic.apply : Arithmetic → Field → Field → Field
  | .add => Field.add
  | .sub => Field.sub
  | .mul => Field.mul
  | .div => Field.div
  | .modulo => Field.modulo

def Link.apply : Link → Field → Field → Field
  | .concat => Field.concat
  | .jsonGet => Field.jsonGet
  | .jsonGetText => Field.jsonGetText

def Arithmetic.sign : Arithmetic → Char
  | .add => '+'
  | .sub => '-'
  | .mul => '*'
  | .div => '/'
  | .modulo => '%'

theorem Arithmetic.sign_injective {op op' : Arithmetic} (h : op.sign = op'.sign) : op = op' := by
  cases op <;> cases op' <;> first | rfl | cases h

def Link.sign : Link → List Char
  | .concat => [' ', '|', '|', ' ']
  | .jsonGet => ['-', '>']
  | .jsonGetText => ['-', '>', '>']

namespace Operation

/-- A field built by the operators of a tree. The declared types are not part of the tree. -/
inductive Builds : Operation → Field → Prop where
  | column (name : Identifier) (type : FieldType) :
      Builds (.column none name) (.column name.text type)
  | qualified (q name : Identifier) (type : FieldType) :
      Builds (.column (some q) name) (.qualified q.text name.text type)
  | arithmetic {l r f g} (op : Arithmetic) : Builds l f → Builds r g →
      Builds (.arithmetic op l r) (op.apply f g)
  | link {l r f g} (op : Link) : Builds l f → Builds r g → Builds (.link op l r) (op.apply f g)
  | collate {t f} (collation : Identifier) : Builds t f →
      Builds (.collate t collation) (f.collate collation.text)
  | cast {t f} (sqlType : Identifier) (type : FieldType) : Builds t f →
      Builds (.cast t sqlType) (f.cast sqlType.text type)

theorem exists_builds (t : Operation) : ∃ f, t.Builds f := by
  induction t with
  | column q name =>
      cases q with
      | none => exact ⟨_, .column name .custom⟩
      | some q => exact ⟨_, .qualified q name .custom⟩
  | arithmetic op l r hl hr =>
      obtain ⟨f, hf⟩ := hl
      obtain ⟨g, hg⟩ := hr
      exact ⟨_, .arithmetic op hf hg⟩
  | link op l r hl hr =>
      obtain ⟨f, hf⟩ := hl
      obtain ⟨g, hg⟩ := hr
      exact ⟨_, .link op hf hg⟩
  | collate t c ht =>
      obtain ⟨f, hf⟩ := ht
      exact ⟨_, .collate c hf⟩
  | cast t s ht =>
      obtain ⟨f, hf⟩ := ht
      exact ⟨_, .cast s .custom hf⟩

/-! ## Rows -/

mutual

/-- An operand that nothing around it can take apart. -/
inductive Atom where
  | column (qualifier : Option Identifier) (name : Identifier)
  | arithmetic (op : Arithmetic) (lhs rhs : Row)
  | cast (operand : Row) (sqlType : Identifier)

inductive Row where
  | mk (head : Atom) (tail : Tail)

/-- What follows an operand. -/
inductive Tail where
  | done
  | collate (collation : Identifier) (rest : Tail)
  | link (op : Link) (operand : Atom) (rest : Tail)

end

def Row.head : Row → Atom
  | .mk head _ => head

def Row.tail : Row → Tail
  | .mk _ tail => tail

def Tail.append : Tail → Tail → Tail
  | .done, t => t
  | .collate c rest, t => .collate c (rest.append t)
  | .link op a rest, t => .link op a (rest.append t)

def Row.extend : Row → Tail → Row
  | .mk head tail, t => .mk head (tail.append t)

/-- The row in which a tree is written. -/
def row : Operation → Row
  | .column q name => .mk (.column q name) .done
  | .arithmetic op l r => .mk (.arithmetic op l.row r.row) .done
  | .link op l r => l.row.extend (.link op r.row.head r.row.tail)
  | .collate t c => t.row.extend (.collate c .done)
  | .cast t s => .mk (.cast t.row s) .done

theorem Tail.append_assoc : (a b c : Tail) → (a.append b).append c = a.append (b.append c)
  | .done, _, _ => rfl
  | .collate o rest, b, c => by
      simp only [Tail.append]
      rw [rest.append_assoc]
  | .link op a rest, b, c => by
      simp only [Tail.append]
      rw [rest.append_assoc]

@[simp] theorem Row.extend_extend (r : Row) (a b : Tail) :
    (r.extend a).extend b = r.extend (a.append b) := by
  cases r with
  | mk h t => exact congrArg (Row.mk h) (t.append_assoc a b)

/-! ## Text -/

def collateSign : List Char := [' ', 'C', 'O', 'L', 'L', 'A', 'T', 'E', ' ', '"']

mutual

/-- What is written for an operand before a text. -/
def Atom.write : Atom → List Char → List Char
  | .column none name, k => name.chars ++ k
  | .column (some q) name, k => q.chars ++ '.' :: (name.chars ++ k)
  | .arithmetic op l r, k => '(' :: l.write (' ' :: op.sign :: ' ' :: r.write (')' :: k))
  | .cast r s, k =>
    ['C', 'A', 'S', 'T'] ++ '(' :: r.write (' ' :: 'A' :: 'S' :: ' ' :: (s.chars ++ ')' :: k))

def Row.write : Row → List Char → List Char
  | .mk head tail, k => head.write (tail.write k)

def Tail.write : Tail → List Char → List Char
  | .done, k => k
  | .collate c rest, k => collateSign ++ (c.chars ++ '"' :: rest.write k)
  | .link op a rest, k => op.sign ++ a.write (rest.write k)

end

theorem Tail.write_append : (a b : Tail) → (k : List Char) →
    (a.append b).write k = a.write (b.write k)
  | .done, _, _ => by simp only [Tail.append, Tail.write]
  | .collate c rest, b, k => by simp only [Tail.append, Tail.write, rest.write_append]
  | .link op a rest, b, k => by simp only [Tail.append, Tail.write, rest.write_append]

theorem Row.write_extend (r : Row) (t : Tail) (k : List Char) :
    (r.extend t).write k = r.write (t.write k) := by
  cases r with
  | mk head tail => simp only [Row.extend, Row.write, tail.write_append]

mutual

theorem Atom.write_append_text : (a : Atom) → (j k : List Char) → a.write (j ++ k) = a.write j ++ k
  | .column none name, j, k => by simp [Atom.write]
  | .column (some q) name, j, k => by simp [Atom.write]
  | .arithmetic op l r, j, k => by
      have hr := r.write_append_text (')' :: j) k
      have hl := l.write_append_text (' ' :: op.sign :: ' ' :: r.write (')' :: j)) k
      simp only [List.cons_append] at hl hr
      simp only [Atom.write, List.cons_append, hr, hl]
  | .cast r s, j, k => by
      have hr := r.write_append_text (' ' :: 'A' :: 'S' :: ' ' :: (s.chars ++ ')' :: j)) k
      simp only [List.append_assoc, List.cons_append] at hr
      simp only [Atom.write, List.append_assoc, List.cons_append, hr]

theorem Row.write_append_text : (r : Row) → (j k : List Char) → r.write (j ++ k) = r.write j ++ k
  | .mk head tail, j, k => by
      simp only [Row.write, tail.write_append_text, head.write_append_text]

theorem Tail.write_append_text : (t : Tail) → (j k : List Char) → t.write (j ++ k) = t.write j ++ k
  | .done, j, k => by simp only [Tail.write]
  | .collate c rest, j, k => by
      simp only [Tail.write, rest.write_append_text, List.append_assoc, List.cons_append]
  | .link op a rest, j, k => by
      simp only [Tail.write, rest.write_append_text, a.write_append_text, List.append_assoc]

end

/-! ## Rendering -/

theorem ident_ofList {s : List Char} (h : '?' ∉ s) :
    Fragment.ident (String.ofList s) = .raw (String.ofList s) :=
  Fragment.ident_eq_raw (by rwa [String.toList_ofList])

theorem raw_append_raw (a b : List Char) :
    (Fragment.raw (String.ofList a)).append (.raw (String.ofList b)) =
      .raw (String.ofList (a ++ b)) := by
  rw [String.ofList_append, Fragment.raw_append]

theorem render_two_operands {template before between after : String} {type : FieldType}
    (h : ∀ d d' : Doc, Template.fill (Neutral.marks template.toList) [some d, some d'] =
      some (Template.texts before ++ d :: (Template.texts between ++ d' :: Template.texts after)))
    (f g : Field) (e : Exclude) :
    (Field.computed type template [.field f, .field g]).render e =
      (Fragment.ident before).append ((f.render e).append
        ((Fragment.ident between).append ((g.render e).append (.ident after)))) := by
  rw [Field.computed, Place.render_ofExpr, Expr.doc, argDocs_eq]
  simp only [List.map_cons, List.map_nil, Arg.doc?]
  exact Template.render_two_slots h _ _

theorem render_arithmetic (op : Arithmetic) (f g : Field) (e : Exclude) :
    (op.apply f g).render e =
      (Fragment.ident "(").append ((f.render e).append
        ((Fragment.ident (String.ofList [' ', op.sign, ' '])).append
          ((g.render e).append (.ident ")")))) := by
  cases op <;> exact render_two_operands (fun _ _ => rfl) f g e

theorem render_link (op : Link) (f g : Field) (e : Exclude) :
    (op.apply f g).render e =
      (Fragment.ident "").append ((f.render e).append
        ((Fragment.ident (String.ofList op.sign)).append ((g.render e).append (.ident "")))) := by
  cases op <;> exact render_two_operands (fun _ _ => rfl) f g e

theorem Row.write_eq (r : Row) (k : List Char) : r.write k = r.write [] ++ k :=
  r.write_append_text [] k

/-- A field is written as the row of its tree. -/
theorem Builds.render {t : Operation} {f : Field} (h : t.Builds f) :
    f.render .none = .raw (String.ofList (t.row.write [])) := by
  induction h with
  | column name type =>
      rw [Field.column, Place.render_ofExpr, Expr.doc, columnDoc, Doc.render_text, Identifier.text,
        ident_ofList name.no_question]
      simp [row, Row.write, Tail.write, Atom.write]
  | qualified q name type =>
      have hq : nonempty? q.text = some q.text := by
        rw [nonempty?, q.isEmpty_text, if_neg Bool.false_ne_true]
      have hn : Exclude.none.contains q.text = false := rfl
      have hdot : Fragment.ident "." = .raw (String.ofList ['.']) := ident_ofList (by decide)
      rw [Field.qualified, hq, Place.render_ofExpr, Expr.doc, columnDoc, hn,
        if_neg Bool.false_ne_true, Doc.render_seq]
      simp only [List.map_cons, List.map_nil, Doc.render_text, Identifier.text,
        ident_ofList q.no_question, hdot, ident_ofList name.no_question, Fragment.concat_cons,
        Fragment.concat_nil, Fragment.append_empty, raw_append_raw]
      simp [row, Row.write, Tail.write, Atom.write]
  | @arithmetic l r f g op hl hr ihl ihr =>
      have hopen : Fragment.ident "(" = .raw (String.ofList ['(']) := ident_ofList (by decide)
      have hclose : Fragment.ident ")" = .raw (String.ofList [')']) := ident_ofList (by decide)
      have hsign : '?' ∉ [' ', op.sign, ' '] := by cases op <;> decide
      rw [render_arithmetic, ihl, ihr, hopen, hclose, ident_ofList hsign]
      simp only [raw_append_raw]
      rw [row, Row.write, Tail.write, Atom.write, l.row.write_eq (' ' :: _),
        r.row.write_eq (')' :: _)]
      simp
  | @link l r f g op hl hr ihl ihr =>
      have hempty : Fragment.ident "" = .raw (String.ofList []) := ident_ofList (by decide)
      have hsign : '?' ∉ op.sign := by cases op <;> decide
      rw [render_link, ihl, ihr, hempty, ident_ofList hsign]
      simp only [raw_append_raw, List.nil_append]
      rw [row, Row.write_extend, Tail.write, l.row.write_eq (op.sign ++ _)]
      cases r.row
      simp [Row.write, Row.head, Row.tail]
  | @collate t f c ht ih =>
      have hopen : Fragment.ident (" COLLATE \"" ++ c.text) =
          .raw (String.ofList (collateSign ++ c.chars)) := by
        have htext : " COLLATE \"" ++ c.text = String.ofList (collateSign ++ c.chars) := by
          rw [String.ofList_append]
          rfl
        rw [htext, ident_ofList]
        simp [collateSign, c.no_question]
      have hclose : Fragment.ident "\"" = .raw (String.ofList ['"']) := ident_ofList (by decide)
      have hf : (f.doc .none).render = f.render .none := rfl
      rw [Place.render_collate, hf, ih, hopen, hclose, raw_append_raw, raw_append_raw, row,
        Row.write_extend, Tail.write, Tail.write, t.row.write_eq (collateSign ++ _)]
      simp
  | @cast t f s type ht ih =>
      have hopen : Fragment.ident "CAST(" = .raw (String.ofList ['C', 'A', 'S', 'T', '(']) :=
        ident_ofList (by decide)
      have hbetween : Fragment.ident (" AS " ++ s.text) =
          .raw (String.ofList ([' ', 'A', 'S', ' '] ++ s.chars)) := by
        have htext : " AS " ++ s.text = String.ofList ([' ', 'A', 'S', ' '] ++ s.chars) := by
          rw [String.ofList_append]
          rfl
        rw [htext, ident_ofList]
        simp [s.no_question]
      have hclose : Fragment.ident ")" = .raw (String.ofList [')']) := ident_ofList (by decide)
      have hf : (f.doc .none).render = f.render .none := rfl
      rw [Place.render_cast, hf, ih, hopen, hbetween, hclose]
      simp only [raw_append_raw]
      rw [row, Row.write, Tail.write, Atom.write, t.row.write_eq (' ' :: _)]
      simp

end Operation

end SqlCompose
