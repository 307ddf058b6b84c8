import SqlCompose.Function
import SqlCompose.Insert
import SqlCompose.Proofs.Literal
import SqlCompose.Proofs.Spots

/-!
# Orders to sort by, outside of `ORDER BY`

A field keeps its order to sort by wherever it is used, and as an operand it is written with it. The
values never change, and a projection leaves the order out. At all other places the words follow the
field whenever it is written at all, whether or not the place is one to sort by.
-/

namespace SqlCompose

/-! ## Fields without orders -/

/-- A field without an order to sort by. -/
def Field.plain (f : Field) : Field := { f with order := none, nulls := none }

theorem ident_orderingWords (order : Option SortOrder) (nulls : Option NullsOrder) :
    Fragment.ident (orderingWords order nulls) = .raw (orderingWords order nulls) := by
  refine Fragment.ident_eq_raw ?_
  rcases order with _ | _ | _ <;> rcases nulls with _ | _ | _ <;> decide

theorem orderingWords_eq_empty {order : Option SortOrder} {nulls : Option NullsOrder} :
    orderingWords order nulls = "" ↔ order = none ∧ nulls = none := by
  rcases order with _ | _ | _ <;> rcases nulls with _ | _ | _ <;> decide

namespace Field

def words (f : Field) : Fragment := .raw (orderingWords f.order f.nulls)

theorem render_of_not_vanishes {f : Field} {e : Exclude} (h : (f.expr.doc e).vanishes = false) :
    f.render e = (f.expr.doc e).render.append f.words := by
  cases f
  simp only [render, Field.doc]
  rw [Doc.follow, Doc.render_framed h, Doc.render_eq_empty _ Doc.vanishes_empty, Doc.render_text,
    ident_orderingWords, Fragment.empty_append, words]

theorem render_of_vanishes {f : Field} {e : Exclude} (h : (f.expr.doc e).vanishes = true) :
    f.render e = .empty := by
  cases f
  simp only [render, Field.doc]
  exact Doc.render_eq_empty_of_framed h

theorem render_plain (f : Field) (e : Exclude) : f.plain.render e = (f.expr.doc e).render := by
  cases h : (f.expr.doc e).vanishes with
  | true => rw [render_of_vanishes (f := f.plain) h, Doc.render_eq_empty _ h]
  | false =>
      rw [render_of_not_vanishes (f := f.plain) h]
      exact Fragment.append_empty _

theorem render_eq (f : Field) (e : Exclude) : f.render e =
    if (f.plain.render e).isEmpty then f.plain.render e else (f.plain.render e).append f.words := by
  rw [render_plain]
  split
  · next h => rw [render_of_vanishes h, Doc.render_eq_empty _ h]
  · next h => exact render_of_not_vanishes (Bool.eq_false_iff.mpr h)

theorem eq_plain_iff {f : Field} : f = f.plain ↔ f.words = .empty := by
  constructor
  · intro h
    rw [h]
    rfl
  · intro h
    obtain ⟨horder, hnulls⟩ := orderingWords_eq_empty.mp (congrArg Fragment.sql h)
    cases f
    simp_all [plain]

end Field

/-- What the order of a field changes of the text around the field. -/
structure OrderEffect (shown : Prop) (s : Standing) (text : Field → Fragment) (f : Field) :
    Prop where
  args : (text f).args = (text f.plain).args
  same_iff : text f = text f.plain ↔
    f = f.plain ∨ s.isProjected = true ∨ (s.render f.plain).isEmpty = true ∨ ¬ shown
  shown : text f ≠ text f.plain → ∃ l r : Fragment,
    text f.plain = l.append ((s.render f.plain).append r) ∧
    text f = l.append ((s.render f.plain).append (f.words.append r))

theorem OrderEffect.of_same {p : Prop} {s : Standing} {text : Field → Fragment} {f : Field}
    (h : text f = text f.plain) (hwhy : f = f.plain ∨ s.isProjected = true ∨
      (s.render f.plain).isEmpty = true ∨ ¬ p) : OrderEffect p s text f :=
  ⟨congrArg Fragment.args h, ⟨fun _ => hwhy, fun _ => h⟩, fun hne => absurd h hne⟩

theorem Located.orderEffect {p : Prop} {s : Standing} {d : Field → Doc} (h : Located p s d)
    (f : Field) : OrderEffect p s (fun g => (d g).render) f := by
  obtain ⟨F, hF, hshows, hhides⟩ := h
  cases s with
  | projected e =>
      have hsame : f.renderProjection e = f.plain.renderProjection e := by
        cases f
        simp only [Field.renderProjection, Field.plain, Field.projectionDoc]
      refine .of_same ?_ (.inr (.inl rfl))
      rw [hF, hF]
      exact congrArg F hsame
  | operand e =>
      have htext := f.render_eq e
      cases hempty : (f.plain.render e).isEmpty with
      | true =>
          rw [if_pos hempty] at htext
          refine .of_same ?_ (.inr (.inr (.inl hempty)))
          rw [hF, hF]
          exact congrArg F htext
      | false =>
          rw [if_neg (Bool.eq_false_iff.mp hempty)] at htext
          have hdecorated : (f.render e).isEmpty = false := by simp [htext, hempty]
          by_cases hp : p
          · obtain ⟨l, r, hshows⟩ := hshows hp
            have hplain : (d f.plain).render = l.append ((f.plain.render e).append r) :=
              (hF _).trans (hshows _ hempty)
            have hwords : (d f).render =
                l.append ((f.plain.render e).append (f.words.append r)) := by
              rw [hF, Standing.render, hshows _ hdecorated, htext, Fragment.append_assoc]
            refine ⟨?_, ⟨fun h => ?_, ?_⟩, fun _ => ⟨l, r, hplain, hwords⟩⟩
            · simp [hplain, hwords, Field.words]
            · have hlength : f.words.sql.length = 0 := by
                have := congrArg (·.sql.length) (hwords.symm.trans (h.trans hplain))
                simp only [Fragment.sql_append, String.length_append] at this
                omega
              refine .inl (Field.eq_plain_iff.mpr (Fragment.ext ?_ rfl))
              exact String.length_eq_zero_iff.mp hlength
            · rintro (h | h | h | h)
              · exact congrArg (fun g => (d g).render) h
              · cases h
              · rw [Standing.render, hempty] at h
                cases h
              · exact absurd hp h
          · obtain ⟨t, hhides⟩ := hhides hp
            refine .of_same ?_ (.inr (.inr (.inr hp)))
            rw [hF, hF, Standing.render, Standing.render, hhides _ hdecorated, hhides _ hempty]

/-! ## Operations on fields -/

namespace Field

/-- The conditions that have a field as one of their operands. -/
def conditions (op : String) (g h : Field) (vs : List Value) (q : Query) :
    List (Field → Predicate) :=
  [(·.compare op g), g.compare op, (·.test op), (·.range op g h), (g.range op · h), g.range op h,
    (·.inList vs), (·.notInList vs), (·.inQuery q), (·.notInQuery q), (·.eqAny g), g.eqAny]

/-- The fields that are computed from a field. -/
def operations (op : String) (g : Field) (before after : List Field) (type : Field → FieldType) :
    List (Field → Field) :=
  [(·.arithmetic op g), g.arithmetic op, (·.concat g), g.concat, (·.jsonGet g), g.jsonGet,
    (·.jsonGetText g), g.jsonGetText, (·.collate op), fun f => f.cast op (type f),
    Function.countDistinct, fun f => Function.call op (type f) (before ++ f :: after)]

theorem spot_conditions (e : Exclude) (op : String) (g h : Field) (vs : List Value) (q : Query) :
    ∀ P ∈ conditions op g h vs q,
      ∃ p, (vs ≠ [] → p) ∧ Spot e p (.operand e) fun f => .predicate (P f) := by
  have shown {P : Field → Predicate} (h : Spot e True (.operand e) fun f => .predicate (P f)) :
      ∃ p, (vs ≠ [] → p) ∧ Spot e p (.operand e) fun f => .predicate (P f) :=
    ⟨True, fun _ => trivial, h⟩
  have listed {t : String} (ht : Neutral.slotCount t = 2) : ∃ p, (vs ≠ [] → p) ∧
      Spot e p (.operand e) fun f => .predicate (.custom t [.field f, .list vs]) := by
    refine ⟨_, fun hvs => ⟨trivial, ?_⟩, .custom (.fieldArg [] [.list vs] .hole)⟩
    simp [Template.Writes, ht, hvs.symm]
  have queried {t : String} (ht : Neutral.slotCount t = 2) :
      Spot e True (.operand e) fun f => .predicate (.custom t [.field f, .query q]) :=
    .custom (.field_argument [] [.query q] (by simp [ht]) (by simp))
  simp only [conditions, List.forall_mem_cons]
  refine ⟨shown (.left .hole), shown (.right .hole), shown (.unary .hole), shown (.ranged .hole),
    shown (.low .hole), shown (.high .hole), listed rfl, listed rfl, shown (queried rfl),
    shown (queried rfl), shown (.custom ?_), shown (.custom ?_), ?_⟩
  · exact .field_argument [] [.field g] Nat.two_pos (by simp)
  · exact .field_argument [.field g] [] (Nat.lt_succ_self 1) (by simp)
  · simp

theorem slotCount_arithmetic (op : String) : 1 < Neutral.slotCount ("(? " ++ op ++ " ?)") := by
  have hfirst : ¬ Neutral.EndsInSlot "(? " :=
    Neutral.not_endsInSlot_append (u := " ") (by decide) (by decide) "(?"
  have hsides : Neutral.slotCount "(? " = 1 ∧ Neutral.slotCount " ?)" = 1 := by decide
  rw [Neutral.slotCount_append_of_head _ (by decide), Neutral.slotCount_append hfirst]
  omega

theorem slotCount_call (name : String) (args : List Field) :
    Neutral.slotCount (Neutral.escape name ++ "(" ++ ", ".intercalate (args.map fun _ => "?") ++
      ")") = args.length := by
  have hname : ¬ Neutral.EndsInSlot (Neutral.escape name ++ "(") :=
    Neutral.not_endsInSlot_append (by decide) (by decide) _
  have hsides : Neutral.slotCount "(" = 0 ∧ Neutral.slotCount ")" = 0 := by decide
  rw [Neutral.slotCount_append_of_head _ (by decide), Neutral.slotCount_append hname,
    Neutral.slotCount_append (Neutral.not_endsInSlot_escape name), Neutral.slotCount_escape,
    List.map_const', Neutral.slotCount_intercalate, hsides.1, hsides.2, Nat.add_zero, Nat.zero_add]

theorem spot_operations (e : Exclude) (op : String) (g : Field) (before after : List Field)
    (type : Field → FieldType) :
    ∀ F ∈ operations op g before after type,
      Spot e True (.operand e) fun f => .field (F f) := by
  have first {t : Field → FieldType} {template : String} (rest : List Field)
      (h : 0 < Neutral.slotCount template) : Spot e True (.operand e)
        fun f => .field (computed (t f) template (.field f :: rest.map .field)) :=
    .field (.computed (.field_argument [] _ h (by simp)))
  have second {t : FieldType} {template : String} (h : 1 < Neutral.slotCount template) :
      Spot e True (.operand e) fun f => .field (computed t template [.field g, .field f]) :=
    .field (.computed (.field_argument [_] [] h (by simp)))
  have opened {s : String} (h : ¬ Neutral.EndsInSlot s) (t : String)
      (hs : 0 < Neutral.slotCount s) : 0 < Neutral.slotCount (s ++ t) := by
    rw [Neutral.slotCount_append h]
    exact Nat.add_pos_left hs _
  have call : Spot e True (.operand e) fun f =>
      .field (Function.call op (type f) (before ++ f :: after)) := by
    simp only [Function.call, List.map_append, List.map_cons]
    refine .field (.computed (.field_argument _ _ ?_ (by simp)))
    have hslots := slotCount_call op (before ++ g :: after)
    simp only [List.map_append, List.map_cons] at hslots
    rw [hslots]
    simp
  simp only [operations, List.forall_mem_cons]
  refine ⟨first [g] (Nat.lt_of_succ_lt (slotCount_arithmetic op)), second (slotCount_arithmetic op),
    first [g] (by decide), second (by decide), first [g] (by decide), second (by decide),
    first [g] (by decide), second (by decide), first [] ?_, first [] ?_, first [] (by decide), call,
    by simp⟩
  · rw [String.append_assoc]
    exact opened not_endsInSlot_collate _ (by decide)
  · rw [String.append_assoc]
    exact opened not_endsInSlot_cast _ (by decide)

/-- Wherever a field is used, the order it carries changes none of the values. In a projection it
changes nothing; as an operand, not only of `ORDER BY`, the field is followed by the words of its
order if it has text and its place is written. -/
theorem order_shown_iff (e : Exclude) (f : Field) :
    (∀ (p : Prop) (s : Standing) (C : Field → Host), Spot e p s C → ∀ whole : Bool,
      OrderEffect p s (fun g => ((C g).doc e whole).render) f) ∧
    (∀ op g h vs q, ∀ P ∈ conditions op g h vs q,
      ∃ p, (vs ≠ [] → p) ∧ Spot e p (.operand e) fun f => .predicate (P f)) ∧
    ∀ op g before after type, ∀ F ∈ operations op g before after type,
      Spot e True (.operand e) fun f => .field (F f) :=
  ⟨fun _ _ _ h whole => (h.holds.located whole).orderEffect f, spot_conditions e,
    spot_operations e⟩

def newest : Field := (column "a" .number).desc.nullsLast

def equals (f : Field) : Predicate := f.eq (.value (.bigInt 1))

/-- A selection with a condition on a field. -/
def selecting (f : Field) : Host :=
  .query (.select { (Select.new.run .empty).1 with filters := [] ++ f.equals :: [] })

theorem order_shown_in_condition :
    Spot .none True (.operand .none) selecting ∧
    OrderEffect True (.operand .none) (fun g => ((selecting g).doc .none true).render) newest ∧
    ((selecting newest).doc .none true).sql = "SELECT * WHERE a DESC NULLS LAST = ?" ∧
    ((selecting newest.plain).doc .none true).sql = "SELECT * WHERE a = ?" := by
  have hspot : Spot .none (True ∧ True) (.operand .none) selecting :=
    .clause (.select (.filters _ [] [] equals)) (.left .hole)
  rw [and_self] at hspot
  exact ⟨hspot, (order_shown_iff .none newest).1 _ _ _ hspot true, by rfl, by rfl⟩

/-- To compare expressions, the orders of two fields are ignored; in the texts they are not. -/
theorem order_shown_outside_order_by :
    newest.sameExpr newest.plain = true ∧
    newest.equals.render .none ≠ newest.plain.equals.render .none ∧
    (newest.equals.render .none).sql = "a DESC NULLS LAST = ?" ∧
    (newest.plain.equals.render .none).sql = "a = ?" ∧
    ((newest.concat newest).render .none).sql = "a DESC NULLS LAST || a DESC NULLS LAST" ∧
    (Query.select ((Select.new.run .empty).1.addGroups [newest])).body.sql =
      "SELECT * GROUP BY a DESC NULLS LAST" ∧
    (Query.insert ((Insert.into (.ofName "t")).assign newest newest)).body.sql =
      "INSERT INTO t (a DESC NULLS LAST) VALUES (a DESC NULLS LAST)" := by
  have hnewest : (newest.equals.render .none).sql = "a DESC NULLS LAST = ?" := by rfl
  have hplain : (newest.plain.equals.render .none).sql = "a = ?" := by rfl
  refine ⟨by rfl, fun h => ?_, hnewest, hplain, by rfl, by rfl, by rfl⟩
  rw [h, hplain] at hnewest
  simp at hnewest

end Field

end SqlCompose
