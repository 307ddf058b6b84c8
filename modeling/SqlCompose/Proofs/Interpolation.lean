import SqlCompose.Interpolation
import SqlCompose.Proofs.Numbering

/-!
# Interpolation of numbered text

Numbering writes markers into a text, and interpolation finds them again by reading digits as far as
they go. The text between the markers could mislead it: a digit after a marker, or a sign of its own
with a digit after it. Without these, interpolation puts every value where its slot was, and what it
has put there is not read again.
-/

namespace SqlCompose

namespace Interpolation

/-! ## Numbers -/

theorem number?_toDigits (n : Nat) :
    number? (Nat.toDigits 10 n) = if n ≤ largestNumber then some n else none := by
  have hne : (Nat.toDigits 10 n).isEmpty = false := by
    rw [List.isEmpty_eq_false_iff]
    exact Nat.toDigits_ne_nil
  have hfold : (Nat.toDigits 10 n).foldl (fun n c => n * 10 + (c.toNat - 48)) 0 = n := by
    simp only [Nat.mul_comm _ 10]
    exact Nat.ofDigitChars_toDigits (by decide) (by decide)
  unfold number?
  rw [hne, if_neg Bool.false_ne_true]
  simp only [hfold]

/-- A marker beyond the values stays, whether or not its number fits a word. -/
theorem numbered_toDigits {args : List Value} (hargs : args.length ≤ largestNumber) (sign : Char)
    (n : Nat) :
    numbered args sign (Nat.toDigits 10 (n + 1)) =
      match args[n]? with
      | some v => v.literal.toList
      | none => sign :: Nat.toDigits 10 (n + 1) := by
  by_cases hn : n + 1 ≤ largestNumber
  · have hread : number? (Nat.toDigits 10 (n + 1)) = some (n + 1) := by
      rw [number?_toDigits, if_pos hn]
    cases hget : args[n]? with
    | none => simp only [numbered, hread, hget]
    | some v => simp only [numbered, hread, hget]
  · have hread : number? (Nat.toDigits 10 (n + 1)) = none := by
      rw [number?_toDigits, if_neg hn]
    have hnone : args[n]? = none := by
      rw [List.getElem?_eq_none_iff]
      omega
    simp only [numbered, hread, hnone]

theorem numbered_nil (args : List Value) (sign : Char) : numbered args sign [] = [sign] := rfl

/-! ## Signs and digits -/

theorem replaceNumbered_sign (sign : Char) (args : List Value) (rest : List Char) :
    replaceNumbered sign args none (sign :: rest) = replaceNumbered sign args (some []) rest := by
  simp [replaceNumbered]

theorem replaceNumbered_other {sign c : Char} (h : c ≠ sign) (args : List Value)
    (rest : List Char) :
    replaceNumbered sign args none (c :: rest) = c :: replaceNumbered sign args none rest := by
  simp [replaceNumbered, h]

theorem replaceNumbered_digits (sign : Char) (args : List Value) {digits : List Char}
    (h : ∀ c ∈ digits, c.isDigit = true) (read rest : List Char) :
    replaceNumbered sign args (some read) (digits ++ rest) =
      replaceNumbered sign args (some (read ++ digits)) rest := by
  induction digits generalizing read with
  | nil => simp
  | cons c digits ih =>
      obtain ⟨hc, hdigits⟩ := List.forall_mem_cons.mp h
      rw [List.cons_append, replaceNumbered, if_pos hc, ih hdigits]
      simp

/-- A number ends where the digits end. -/
theorem replaceNumbered_end (sign : Char) (args : List Value) (digits : List Char)
    {rest : List Char} (h : ∀ c ∈ rest.head?, c.isDigit = false) :
    replaceNumbered sign args (some digits) rest =
      numbered args sign digits ++ replaceNumbered sign args none rest := by
  cases rest with
  | nil => simp [replaceNumbered]
  | cons c rest =>
      have hc : c.isDigit = false := h c rfl
      simp only [replaceNumbered, hc, Bool.false_eq_true, if_false]

theorem replaceInOrder_other {c : Char} (h : c ≠ '?') (args : List Value) (rest : List Char) :
    replaceInOrder args (c :: rest) = c :: replaceInOrder args rest := by
  cases args <;> simp [replaceInOrder, h]

end Interpolation

/-! ## Texts that read back -/

namespace Dialect

/-- What a marker begins with. -/
def sign : Dialect → Char
  | .postgres => '$'
  | _ => '?'

/-- No marker of a text is followed by a digit, and no other part of it looks like a marker. -/
structure ReadsBack (d : Dialect) (ms : List Neutral.Mark) : Prop where
  markers : ∀ c : Char, c.isDigit = true → ¬ [.slot, .literal c] <:+: ms
  text : match d with
    | .postgres => ∀ c : Char, c.isDigit = true → ¬ [.literal '$', .literal c] <:+: ms
    | .sqlite => ∀ c : Char, c.isDigit = true → ¬ [.literal '?', .literal c] <:+: ms
    | .mysql => .literal '?' ∉ ms

/-- The units of a neutral text with the values in their slots, when `n` slots came before. -/
def filled (d : Dialect) (args : List Value) : Nat → List Neutral.Mark → List Char
  | _, [] => []
  | n, .literal c :: ms => c :: d.filled args n ms
  | n, .slot :: ms =>
    (match args[n]? with
      | some v => v.literal.toList
      | none => d.placeholder (n + 1)) ++ d.filled args (n + 1) ms

variable {d : Dialect} {args : List Value} {ms : List Neutral.Mark}

theorem not_infix_tail {p : List Neutral.Mark} {m : Neutral.Mark} (h : ¬ p <:+: m :: ms) :
    ¬ p <:+: ms :=
  fun hp => h (List.infix_cons hp)

/-- A text begins with a digit only if its neutral text does. -/
theorem not_digit_head_spell (hd : ∀ n, d.placeholder n = d.sign :: Nat.toDigits 10 n)
    {m : Neutral.Mark} (h : ∀ c : Char, c.isDigit = true → ¬ [m, .literal c] <:+: m :: ms)
    (n : Nat) : ∀ c ∈ (d.spell n ms).head?, c.isDigit = false := by
  intro c hc
  cases ms with
  | nil => cases hc
  | cons next ms =>
      cases next with
      | literal x =>
          obtain rfl : x = c := Option.some.inj hc
          rw [Bool.eq_false_iff]
          intro hx
          exact h x hx ⟨[], ms, rfl⟩
      | slot =>
          have hsign : (d.spell n (.slot :: ms)).head? = some d.sign := by
            rw [spell, hd]
            rfl
          obtain rfl : d.sign = c := Option.some.inj (hsign.symm.trans hc)
          cases d <;> rfl

/-- Numbers are read as they were written. -/
theorem replaceNumbered_spell (hd : ∀ n, d.placeholder n = d.sign :: Nat.toDigits 10 n)
    (hargs : args.length ≤ Interpolation.largestNumber)
    (hmarkers : ∀ c : Char, c.isDigit = true → ¬ [.slot, .literal c] <:+: ms)
    (htext : ∀ c : Char, c.isDigit = true → ¬ [.literal d.sign, .literal c] <:+: ms) (n : Nat) :
    Interpolation.replaceNumbered d.sign args none (d.spell n ms) = d.filled args n ms := by
  induction ms generalizing n with
  | nil => rfl
  | cons m ms ih =>
      have hrest := ih (fun c hc => not_infix_tail (hmarkers c hc))
        (fun c hc => not_infix_tail (htext c hc))
      cases m with
      | literal c =>
          rw [spell, filled, ← hrest n]
          by_cases hc : c = d.sign
          · -- a sign of the text itself has no digits
            subst hc
            rw [Interpolation.replaceNumbered_sign,
              Interpolation.replaceNumbered_end _ _ _ (not_digit_head_spell hd htext n),
              Interpolation.numbered_nil]
            rfl
          · exact Interpolation.replaceNumbered_other hc _ _
      | slot =>
          have hdigits : ∀ c ∈ Nat.toDigits 10 (n + 1), c.isDigit = true :=
            fun c hc => Nat.isDigit_of_mem_toDigits (by decide) (by decide) hc
          rw [spell, filled, hd, List.cons_append, Interpolation.replaceNumbered_sign,
            Interpolation.replaceNumbered_digits _ _ hdigits, List.nil_append,
            Interpolation.replaceNumbered_end _ _ _ (not_digit_head_spell hd hmarkers (n + 1)),
            Interpolation.numbered_toDigits hargs, hrest (n + 1)]

/-- Plain question marks are counted again. -/
theorem replaceInOrder_spell (h : .literal '?' ∉ ms) (n : Nat) :
    Interpolation.replaceInOrder (args.drop n) (mysql.spell n ms) = mysql.filled args n ms := by
  induction ms generalizing n with
  | nil => cases args.drop n <;> rfl
  | cons m ms ih =>
      rw [List.mem_cons, not_or] at h
      have hrest := ih h.2
      cases m with
      | literal c =>
          have hc : c ≠ '?' := fun hc => h.1 (by rw [hc])
          rw [spell, filled, ← hrest n, Interpolation.replaceInOrder_other hc]
      | slot =>
          have hspell : mysql.spell n (.slot :: ms) = '?' :: mysql.spell (n + 1) ms := rfl
          rw [hspell, filled, ← hrest (n + 1)]
          by_cases hn : n < args.length
          · rw [List.drop_eq_getElem_cons hn, List.getElem?_eq_getElem hn]
            rfl
          · have hle : args.length ≤ n := Nat.not_lt.mp hn
            rw [List.drop_eq_nil_of_le hle, List.drop_eq_nil_of_le (Nat.le_succ_of_le hle),
              List.getElem?_eq_none_iff.mpr hle]
            rfl

/-- Interpolation undoes numbering: every slot of a text that reads back is filled with the literal
of its value, or shows its marker if there are fewer values, and everything else is kept. No list of
values is longer than the largest number that a marker may have. -/
theorem interpolated_renumber (d : Dialect) (f : Fragment)
    (hargs : f.args.length ≤ Interpolation.largestNumber)
    (h : d.ReadsBack (Neutral.marks f.sql.toList)) :
    (d.renumber f).interpolated =
      String.ofList (d.filled f.args 0 (Neutral.marks f.sql.toList)) := by
  obtain ⟨hmarkers, htext⟩ := h
  unfold Built.interpolated interpolate renumber
  rw [String.toList_ofList]
  cases d with
  | postgres =>
      have hd (n : Nat) : postgres.placeholder n = postgres.sign :: Nat.toDigits 10 n := rfl
      exact congrArg _ (replaceNumbered_spell hd hargs hmarkers htext 0)
  | sqlite =>
      have hd (n : Nat) : sqlite.placeholder n = sqlite.sign :: Nat.toDigits 10 n := rfl
      exact congrArg _ (replaceNumbered_spell hd hargs hmarkers htext 0)
  | mysql => exact congrArg _ (replaceInOrder_spell htext 0)

/-- A text put in place of a marker is not read again, though it looks like one. -/
theorem interpolated_renumber_marker_in_value :
    let f : Fragment := ⟨"a = ? AND b ?? ? AND c$? = ?", [.text "$2 or ?", .text "$1"]⟩
    f.args.length ≤ Interpolation.largestNumber ∧
    postgres.ReadsBack (Neutral.marks f.sql.toList) ∧
    (postgres.renumber f).sql = "a = $1 AND b ? $2 AND c$$3 = $4" ∧
    (postgres.renumber f).interpolated = "a = '$2 or ?' AND b ? '$1' AND c$$3 = $4" := by
  intro f
  have hargs : f.args.length ≤ Interpolation.largestNumber := by decide
  have hreads : postgres.ReadsBack (Neutral.marks f.sql.toList) := by
    have hmarks : Neutral.marks f.sql.toList = [.literal 'a', .literal ' ', .literal '=',
        .literal ' ', .slot, .literal ' ', .literal 'A', .literal 'N', .literal 'D', .literal ' ',
        .literal 'b', .literal ' ', .literal '?', .literal ' ', .slot, .literal ' ', .literal 'A',
        .literal 'N', .literal 'D', .literal ' ', .literal 'c', .literal '$', .slot, .literal ' ',
        .literal '=', .literal ' ', .slot] := by cbv
    rw [hmarks]
    refine ⟨fun c hc h => ?_, fun c hc h => ?_⟩
    · simp [List.infix_cons_iff] at h
      subst h
      cases hc
    · simp [List.infix_cons_iff] at h
  refine ⟨hargs, hreads, by cbv, ?_⟩
  rw [interpolated_renumber postgres f hargs hreads]
  cbv

end Dialect

end SqlCompose
