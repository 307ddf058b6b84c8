import SqlCompose.Proofs.Interpolation
import Mathlib.Tactic.IntervalCases

/-!
# Interpolation of any text

A text of a dialect, read as placeholders and other characters. Interpolation writes a literal in
place of every placeholder that has a value and keeps the other characters. A placeholder without a
value stays as well, but its number is written anew, and the zeros in front of it get lost.
-/

namespace SqlCompose

/-! ## Digits -/

theorem toNat_of_isDigit {c : Char} (h : c.isDigit = true) : 48 ≤ c.toNat ∧ c.toNat < 58 := by
  simp only [Char.isDigit, Bool.and_eq_true, decide_eq_true_eq] at h
  exact ⟨h.1, Nat.lt_succ_of_le h.2⟩

theorem toDigits_digit {c : Char} (h : c.isDigit = true) :
    Nat.toDigits 10 (c.toNat - '0'.toNat) = [c] := by
  obtain ⟨hlow, hhigh⟩ := toNat_of_isDigit h
  obtain ⟨n, hn⟩ : ∃ n, c.toNat = n := ⟨_, rfl⟩
  rw [← Char.ofNat_toNat c, hn]
  rw [hn] at hlow hhigh
  interval_cases n <;> rfl

/-- Digits that follow a number are written behind it. -/
theorem toDigits_ofDigitChars_of_pos {cs : List Char} (h : ∀ c ∈ cs, c.isDigit = true) {n : Nat}
    (hn : 0 < n) : Nat.toDigits 10 (Nat.ofDigitChars 10 cs n) = Nat.toDigits 10 n ++ cs := by
  induction cs generalizing n with
  | nil => exact (List.append_nil _).symm
  | cons c cs ih =>
      obtain ⟨hc, hcs⟩ := List.forall_mem_cons.mp h
      have hdigit : c.toNat - '0'.toNat < 10 := Nat.sub_lt_left_of_lt_add
        (toNat_of_isDigit hc).1 (toNat_of_isDigit hc).2
      rw [Nat.ofDigitChars_cons, ih hcs (by omega),
        ← Nat.toDigits_append_toDigits (by decide) hn hdigit, toDigits_digit hc, List.append_assoc]
      rfl

/-- A number is written with its digits, but without the zeros in front. -/
theorem toDigits_ofDigitChars {cs : List Char} (h : ∀ c ∈ cs, c.isDigit = true)
    (hpos : 0 < Nat.ofDigitChars 10 cs 0) :
    Nat.toDigits 10 (Nat.ofDigitChars 10 cs 0) = cs.dropWhile (· == '0') := by
  induction cs with
  | nil => exact absurd hpos (Nat.lt_irrefl 0)
  | cons c cs ih =>
      obtain ⟨hc, hcs⟩ := List.forall_mem_cons.mp h
      rw [Nat.ofDigitChars_cons, Nat.mul_zero, Nat.zero_add] at hpos ⊢
      by_cases hzero : c = '0'
      · subst hzero
        exact ih hcs hpos
      · have hne : (c == '0') = false := beq_false_of_ne hzero
        have hn : 0 < c.toNat - '0'.toNat := by
          rw [Nat.pos_iff_ne_zero]
          intro hnone
          have hdigit := toDigits_digit hc
          rw [hnone] at hdigit
          exact hzero (List.singleton_inj.mp hdigit).symm
        rw [toDigits_ofDigitChars_of_pos hcs hn, toDigits_digit hc, List.dropWhile_cons, hne]
        rfl

theorem ofDigitChars_dropWhile_zeros (cs : List Char) :
    Nat.ofDigitChars 10 (cs.dropWhile (· == '0')) 0 = Nat.ofDigitChars 10 cs 0 := by
  induction cs with
  | nil => rfl
  | cons c cs ih =>
      rw [List.dropWhile_cons]
      split
      · next hc =>
          obtain rfl := beq_iff_eq.mp hc
          exact ih
      · rfl

/-! ## Placeholders and other characters -/

/-- A unit of a dialect's text. -/
inductive Token where
  | other (c : Char)
  /-- A placeholder with the digits of its number. -/
  | marker (digits : List Char)

namespace Token

/-- How many placeholders there are up to and with a unit. -/
def after (position : Nat) : Token → Nat
  | other _ => position
  | marker _ => position + 1

def withoutZeros : Token → Token
  | other c => other c
  | marker digits => marker (digits.dropWhile (· == '0'))

end Token

namespace Dialect

/-- The digits of a placeholder, read behind its sign: all that there are, if placeholders have
numbers. -/
def numberAt (d : Dialect) (rest : List Char) : List Char :=
  match d with
  | .mysql => []
  | _ => rest.takeWhile Char.isDigit

def afterNumber (d : Dialect) (rest : List Char) : List Char :=
  match d with
  | .mysql => rest
  | _ => rest.dropWhile Char.isDigit

theorem numberAt_append_afterNumber (d : Dialect) (rest : List Char) :
    d.numberAt rest ++ d.afterNumber rest = rest := by
  cases d with
  | mysql => rfl
  | _ => exact List.takeWhile_append_dropWhile

theorem length_afterNumber_le (d : Dialect) (rest : List Char) :
    (d.afterNumber rest).length ≤ rest.length := by
  have hlength := congrArg List.length (d.numberAt_append_afterNumber rest)
  rw [List.length_append] at hlength
  omega

theorem isDigit_of_mem_numberAt (d : Dialect) (rest : List Char) :
    ∀ c ∈ d.numberAt rest, c.isDigit = true := by
  have hall := List.all_eq_true.mp (List.all_takeWhile (p := Char.isDigit) (l := rest))
  cases d with
  | mysql => exact fun c hc => absurd hc List.not_mem_nil
  | _ => exact hall

theorem not_isDigit_of_head?_afterNumber {d : Dialect} (hd : d ≠ .mysql) (rest : List Char) :
    ∀ c ∈ (d.afterNumber rest).head?, c.isDigit = false := by
  have hend := List.head?_dropWhile_not Char.isDigit rest
  have hhead : (d.afterNumber rest).head? = (rest.dropWhile Char.isDigit).head? := by
    cases d with
    | mysql => exact absurd rfl hd
    | _ => rfl
  intro c hc
  rw [hhead] at hc
  rw [hc] at hend
  exact hend

def read (d : Dialect) : List Char → List Token
  | [] => []
  | c :: rest =>
    if c = d.sign then .marker (d.numberAt rest) :: d.read (d.afterNumber rest)
    else .other c :: d.read rest
termination_by cs => cs.length
decreasing_by
  · exact Nat.lt_succ_of_le (d.length_afterNumber_le rest)
  · exact Nat.lt_succ_self _

def written (d : Dialect) : Token → List Char
  | .other c => [c]
  | .marker digits => d.sign :: digits

/-- The value of a placeholder, by its number or else by its position. -/
def value? (d : Dialect) (args : List Value) (position : Nat) (digits : List Char) :
    Option Value :=
  match d with
  | .mysql => args[position]?
  | _ =>
    let n := Nat.ofDigitChars 10 digits 0
    if 0 < n ∧ n ≤ Interpolation.largestNumber then args[n - 1]? else none

/-- What stands for a unit when `position` placeholders came before: the literal of a placeholder's
value if there is one, and the unit as it is written otherwise. -/
def shown (d : Dialect) (args : List Value) (position : Nat) : Token → List Char
  | .other c => [c]
  | .marker digits =>
    match d.value? args position digits with
    | some v => v.literal.toList
    | none => d.written (.marker digits)

/-- A text with literals in place of the placeholders that have a value, and everything else as it
is written. -/
def replaced (d : Dialect) (args : List Value) : Nat → List Token → List Char
  | _, [] => []
  | position, t :: ts => d.shown args position t ++ d.replaced args (t.after position) ts

/-- Whether a placeholder has a number that is beyond the values and begins with a zero. -/
def padded (d : Dialect) (args : List Value) : Token → Bool
  | .other _ => false
  | .marker digits =>
    d != .mysql && digits.head? == some '0' &&
      (args.length < Nat.ofDigitChars 10 digits 0 &&
        Nat.ofDigitChars 10 digits 0 ≤ Interpolation.largestNumber)

/-- A unit, without the zeros in front of a number that is beyond the values. -/
def unpadded (d : Dialect) (args : List Value) (t : Token) : Token :=
  if d.padded args t then t.withoutZeros else t

variable {d : Dialect} {args : List Value}

/-! ### One unit -/

theorem value?_eq_none_of_padded {digits : List Char}
    (h : d.padded args (.marker digits) = true) (position : Nat) :
    d.value? args position digits = none := by
  simp only [padded, Bool.and_eq_true, bne_iff_ne, decide_eq_true_eq] at h
  obtain ⟨⟨hd, -⟩, hbeyond, -⟩ := h
  have hnone : args[Nat.ofDigitChars 10 digits 0 - 1]? = none := by
    rw [List.getElem?_eq_none_iff]
    omega
  cases d with
  | mysql => exact absurd rfl hd
  | _ => simp only [value?, hnone, ite_self]

theorem value?_dropWhile_zeros (position : Nat) (digits : List Char) :
    d.value? args position (digits.dropWhile (· == '0')) = d.value? args position digits := by
  cases d with
  | mysql => rfl
  | _ => simp only [value?, ofDigitChars_dropWhile_zeros]

theorem shown_of_padded {digits : List Char} (h : d.padded args (.marker digits) = true)
    (position : Nat) :
    d.shown args position (.marker digits) = d.sign :: digits ∧
      d.shown args position (d.unpadded args (.marker digits)) =
        d.sign :: digits.dropWhile (· == '0') := by
  have hnone := value?_eq_none_of_padded h position
  rw [unpadded, if_pos h]
  simp only [shown, Token.withoutZeros, value?_dropWhile_zeros, hnone, written, and_self]

theorem length_shown_lt_of_padded {t : Token} (h : d.padded args t = true) (position : Nat) :
    (d.shown args position (d.unpadded args t)).length < (d.shown args position t).length := by
  cases t with
  | other c => cases h
  | marker digits =>
      obtain ⟨hfull, hshort⟩ := shown_of_padded h position
      have hzero : digits.head? = some '0' := by
        simp only [padded, Bool.and_eq_true, beq_iff_eq] at h
        exact h.1.2
      obtain ⟨rest, rfl⟩ := List.head?_eq_some_iff.mp hzero
      have hdrop : ('0' :: rest).dropWhile (· == '0') = rest.dropWhile (· == '0') := rfl
      rw [hfull, hshort, hdrop, List.length_cons, List.length_cons, List.length_cons]
      exact Nat.succ_lt_succ (Nat.lt_succ_of_le (List.dropWhile_sublist _).length_le)

theorem unpadded_of_not_padded {t : Token} (h : d.padded args t = false) :
    d.unpadded args t = t := by
  rw [unpadded, h, if_neg Bool.false_ne_true]

theorem length_shown_unpadded_le (position : Nat) (t : Token) :
    (d.shown args position (d.unpadded args t)).length ≤ (d.shown args position t).length := by
  cases h : d.padded args t with
  | true => exact Nat.le_of_lt (length_shown_lt_of_padded h position)
  | false => rw [unpadded_of_not_padded h]

theorem after_unpadded (t : Token) (position : Nat) :
    (d.unpadded args t).after position = t.after position := by
  cases t with
  | other c => rfl
  | marker digits =>
      rw [unpadded]
      split <;> rfl

/-! ### Whole texts -/

theorem length_replaced_unpadded_le (d : Dialect) (args : List Value) (position : Nat)
    (ts : List Token) :
    (d.replaced args position (ts.map (d.unpadded args))).length ≤
      (d.replaced args position ts).length := by
  induction ts generalizing position with
  | nil => exact Nat.le_refl _
  | cons t ts ih =>
      rw [List.map_cons, replaced, replaced, after_unpadded, List.length_append, List.length_append]
      exact Nat.add_le_add (length_shown_unpadded_le position t) (ih _)

theorem replaced_unpadded_eq_iff (position : Nat) (ts : List Token) :
    d.replaced args position (ts.map (d.unpadded args)) = d.replaced args position ts ↔
      ∀ t ∈ ts, d.padded args t = false := by
  induction ts generalizing position with
  | nil => simp [replaced]
  | cons t ts ih =>
      rw [List.map_cons, replaced, replaced, after_unpadded, List.forall_mem_cons,
        ← ih (t.after position)]
      cases h : d.padded args t with
      | false => simp [unpadded_of_not_padded h]
      | true =>
          -- the text is too short, and nothing that follows makes up for it
          refine iff_of_false (fun heq => ?_) (fun hok => by cases hok.1)
          have hlength := congrArg List.length heq
          have hfirst := length_shown_lt_of_padded h position
          have hrest := length_replaced_unpadded_le d args (t.after position) ts
          rw [List.length_append, List.length_append] at hlength
          omega

theorem replaced_nil (position : Nat) (ts : List Token) :
    d.replaced [] position ts = ts.flatMap d.written := by
  have hnone (digits : List Char) (position : Nat) : d.value? [] position digits = none := by
    cases d <;> simp [value?]
  induction ts generalizing position with
  | nil => rfl
  | cons t ts ih =>
      rw [replaced, ih, List.flatMap_cons]
      cases t with
      | other c => rfl
      | marker digits => simp only [shown, hnone]

theorem flatMap_written_read (d : Dialect) (cs : List Char) :
    (d.read cs).flatMap d.written = cs := by
  fun_induction read d cs with
  | case1 => rfl
  | case2 rest ih =>
      rw [List.flatMap_cons, ih, written, List.cons_append, numberAt_append_afterNumber]
  | case3 c rest h ih => rw [List.flatMap_cons, ih, written, List.singleton_append]

end Dialect

/-! ## Interpolation -/

namespace Interpolation

theorem number?_eq {digits : List Char} (h : digits ≠ []) :
    number? digits =
      if Nat.ofDigitChars 10 digits 0 ≤ largestNumber then some (Nat.ofDigitChars 10 digits 0)
      else none := by
  have hfold : digits.foldl (fun n c => n * 10 + (c.toNat - 48)) 0 =
      Nat.ofDigitChars 10 digits 0 := by
    simp only [Nat.mul_comm _ 10]
    rfl
  rw [number?, if_neg (by simpa using h), hfold]

variable {d : Dialect} {args : List Value}

theorem padded_eq_true_iff (hd : d ≠ .mysql) {digits : List Char} :
    d.padded args (.marker digits) = true ↔ digits.head? = some '0' ∧
      args.length < Nat.ofDigitChars 10 digits 0 ∧
      Nat.ofDigitChars 10 digits 0 ≤ largestNumber := by
  simp [Dialect.padded, hd]

/-- A number that no placeholder of a value may have is written as it is read. -/
theorem numbered_of_not_range {digits : List Char}
    (h : ¬ (0 < Nat.ofDigitChars 10 digits 0 ∧ Nat.ofDigitChars 10 digits 0 ≤ largestNumber))
    (sign : Char) : numbered args sign digits = sign :: digits := by
  by_cases hne : digits = []
  · rw [hne, numbered_nil]
  · have hread := number?_eq hne
    split at hread
    · next hle =>
        have hzero : Nat.ofDigitChars 10 digits 0 = 0 := by omega
        rw [hzero] at hread
        simp only [numbered, hread]
    · simp only [numbered, hread]

/-- Any other number is written with its digits, but without the zeros in front. -/
theorem numbered_of_range {digits : List Char} (h : ∀ c ∈ digits, c.isDigit = true)
    (hpos : 0 < Nat.ofDigitChars 10 digits 0)
    (hle : Nat.ofDigitChars 10 digits 0 ≤ largestNumber) (sign : Char) :
    numbered args sign digits =
      match args[Nat.ofDigitChars 10 digits 0 - 1]? with
      | some v => v.literal.toList
      | none => sign :: digits.dropWhile (· == '0') := by
  have hne : digits ≠ [] := by
    rintro rfl
    exact Nat.lt_irrefl 0 hpos
  have hread := number?_eq hne
  rw [if_pos hle] at hread
  rw [← toDigits_ofDigitChars h hpos]
  revert hread hpos
  generalize Nat.ofDigitChars 10 digits 0 = n
  intro hpos hread
  cases n with
  | zero => exact absurd hpos (Nat.lt_irrefl 0)
  | succ n => cases hget : args[n]? <;> simp [numbered, hread, hget]

/-- The number of a placeholder is read with its value, and written anew if it has none. -/
theorem numbered_eq_shown (hd : d ≠ .mysql) {digits : List Char}
    (h : ∀ c ∈ digits, c.isDigit = true) (position : Nat) :
    numbered args d.sign digits =
      d.shown args position (d.unpadded args (.marker digits)) := by
  have hvalue : d.value? args position digits =
      if 0 < Nat.ofDigitChars 10 digits 0 ∧ Nat.ofDigitChars 10 digits 0 ≤ largestNumber then
        args[Nat.ofDigitChars 10 digits 0 - 1]?
      else none := by
    cases d with
    | mysql => exact absurd rfl hd
    | _ => rfl
  cases hpadded : d.padded args (.marker digits) with
  | true =>
      obtain ⟨-, hbeyond, hle⟩ := (padded_eq_true_iff hd).mp hpadded
      have hpos := Nat.zero_lt_of_lt hbeyond
      rw [(Dialect.shown_of_padded hpadded position).2, numbered_of_range h hpos hle,
        List.getElem?_eq_none_iff.mpr (by omega)]
  | false =>
      rw [Dialect.unpadded_of_not_padded hpadded]
      by_cases hrange : 0 < Nat.ofDigitChars 10 digits 0 ∧
          Nat.ofDigitChars 10 digits 0 ≤ largestNumber
      · rw [if_pos hrange] at hvalue
        rw [numbered_of_range h hrange.1 hrange.2, Dialect.shown, hvalue]
        cases hget : args[Nat.ofDigitChars 10 digits 0 - 1]? with
        | some v => rfl
        | none =>
            -- beyond the values and not padded, so there is no zero in front
            have hbeyond := List.getElem?_eq_none_iff.mp hget
            have hzero : digits.head? ≠ some '0' := fun hzero => by
              rw [(padded_eq_true_iff hd).mpr ⟨hzero, by omega, hrange.2⟩] at hpadded
              cases hpadded
            cases digits with
            | nil => rfl
            | cons c cs =>
                have hne : (c == '0') = false := beq_false_of_ne fun hc => hzero (by rw [hc]; rfl)
                rw [List.dropWhile_cons, hne, if_neg Bool.false_ne_true]
                rfl
      · rw [if_neg hrange] at hvalue
        rw [numbered_of_not_range hrange, Dialect.shown, hvalue]
        rfl

theorem replaceNumbered_eq (hd : d ≠ .mysql) (position : Nat) (cs : List Char) :
    replaceNumbered d.sign args none cs =
      d.replaced args position ((d.read cs).map (d.unpadded args)) := by
  fun_induction Dialect.read d cs generalizing position with
  | case1 => rfl
  | case2 rest ih =>
      have hnext := ih (position + 1)
      have hdigits := d.isDigit_of_mem_numberAt rest
      have hend := Dialect.not_isDigit_of_head?_afterNumber hd rest
      rw [List.map_cons, Dialect.replaced, Dialect.after_unpadded, Token.after, ← hnext,
        ← numbered_eq_shown hd hdigits, ← replaceNumbered_end _ _ _ hend, replaceNumbered_sign]
      conv => lhs; rw [← d.numberAt_append_afterNumber rest, replaceNumbered_digits _ _ hdigits]
      rfl
  | case3 c rest h ih =>
      rw [replaceNumbered_other h, ih position]
      rfl

theorem replaceInOrder_eq (position : Nat) (cs : List Char) :
    replaceInOrder (args.drop position) cs =
      Dialect.mysql.replaced args position (Dialect.mysql.read cs) := by
  fun_induction Dialect.read .mysql cs generalizing position with
  | case1 => cases args.drop position <;> rfl
  | case2 rest ih =>
      have hshown : Dialect.mysql.shown args position (.marker []) =
          match args[position]? with
          | some v => v.literal.toList
          | none => ['?'] := rfl
      have hnumber : Dialect.mysql.numberAt rest = [] := rfl
      have hafter : Dialect.mysql.afterNumber rest = rest := rfl
      have hsign : Dialect.mysql.sign = '?' := rfl
      rw [Dialect.replaced, Token.after, ← ih (position + 1), hnumber, hshown, hafter, hsign]
      by_cases hlt : position < args.length
      · rw [List.drop_eq_getElem_cons hlt, List.getElem?_eq_getElem hlt]
        rfl
      · have hle : args.length ≤ position := Nat.not_lt.mp hlt
        rw [List.drop_eq_nil_of_le hle, List.drop_eq_nil_of_le (Nat.le_succ_of_le hle),
          List.getElem?_eq_none_iff.mpr hle]
        rfl
  | case3 c rest h ih =>
      rw [replaceInOrder_other h, ih position]
      rfl

end Interpolation

theorem interpolate_eq (d : Dialect) (sql : String) (args : List Value) :
    interpolate d sql args =
      String.ofList (d.replaced args 0 ((d.read sql.toList).map (d.unpadded args))) := by
  unfold interpolate
  cases d with
  | postgres =>
      exact congrArg _ (Interpolation.replaceNumbered_eq (d := .postgres) (by decide) 0 sql.toList)
  | sqlite =>
      exact congrArg _ (Interpolation.replaceNumbered_eq (d := .sqlite) (by decide) 0 sql.toList)
  | mysql =>
      have hplain : ∀ t : Token, Dialect.mysql.unpadded args t = t := fun t =>
        Dialect.unpadded_of_not_padded (by cases t <;> rfl)
      rw [List.map_congr_left fun t _ => hplain t, List.map_id']
      exact congrArg _ (Interpolation.replaceInOrder_eq 0 sql.toList)

/-- Interpolation puts the literals of values in place of their placeholders and keeps all other
characters. A placeholder without a value loses the zeros in front of its number: everything is kept
as it is written exactly if no number that is beyond the values begins with a zero. -/
theorem interpolate_verbatim_iff (d : Dialect) (sql : String) (args : List Value) :
    (d.read sql.toList).flatMap d.written = sql.toList ∧
    interpolate d sql args =
      String.ofList (d.replaced args 0 ((d.read sql.toList).map (d.unpadded args))) ∧
    (interpolate d sql args = String.ofList (d.replaced args 0 (d.read sql.toList)) ↔
      ∀ t ∈ d.read sql.toList, d.padded args t = false) ∧
    (interpolate d sql [] = sql ↔ ∀ t ∈ d.read sql.toList, d.padded [] t = false) := by
  have hiff (args : List Value) :
      interpolate d sql args = String.ofList (d.replaced args 0 (d.read sql.toList)) ↔
        ∀ t ∈ d.read sql.toList, d.padded args t = false := by
    rw [interpolate_eq, String.ofList_inj, Dialect.replaced_unpadded_eq_iff]
  refine ⟨d.flatMap_written_read sql.toList, interpolate_eq d sql args, hiff args, ?_⟩
  have hwhole : String.ofList (d.replaced [] 0 (d.read sql.toList)) = sql := by
    rw [Dialect.replaced_nil, d.flatMap_written_read, String.ofList_toList]
  rw [← hiff [], hwhole]

/-- A placeholder beyond the values loses its zeros, though nothing is put in its place. One whose
number is zero or too large, and one without a number, are kept. -/
theorem leading_zeros_lost :
    interpolate .postgres "a = $007" [] = "a = $7" ∧
    interpolate .sqlite "?01 ?02 ?00 ?" [.bool true] = "TRUE ?2 ?00 ?" ∧
    interpolate .postgres "$018446744073709551616" [] = "$018446744073709551616" ∧
    Dialect.postgres.replaced [] 0 (Dialect.postgres.read "a = $007".toList) =
      "a = $007".toList := by
  refine ⟨by rfl, by rfl, by rfl, ?_⟩
  rw [Dialect.replaced_nil, Dialect.flatMap_written_read]

end SqlCompose
