import SqlCompose.Placeholder
import SqlCompose.Proofs.Interpolation
import Mathlib.Tactic.IntervalCases

/-!
# Numbers of placeholders

Digits are written from the last to the first, into a buffer that has a fixed length. It is long
enough for every word, and what it holds in the end are the digits of the number, which are read as
that number again.
-/

namespace SqlCompose

/-! ## Filling the buffer -/

theorem toNat_div_ten (n : UInt64) : (n / 10).toNat = n.toNat / 10 := UInt64.toNat_div n 10

/-- The byte of the last digit. -/
theorem ofUInt8_lastDigit (n : UInt64) :
    Char.ofUInt8 (48 + (n % 10).toUInt8) = Nat.digitChar (n.toNat % 10) := by
  have hmod : (n % 10).toNat = n.toNat % 10 := UInt64.toNat_mod n 10
  have hlt : n.toNat % 10 < 10 := Nat.mod_lt _ (by decide)
  rw [← UInt64.ofNat_toNat (x := n % 10), hmod]
  generalize n.toNat % 10 = k at hlt
  interval_cases k <;> rfl

namespace DigitBuffer

/-- The written bytes as characters. -/
def text (b : DigitBuffer) : List Char := b.written.map Char.ofUInt8

theorem push?_eq_some {b : DigitBuffer} (h : 0 < b.start) (byte : UInt8) :
    ∃ b', b.push? byte = some b' ∧ b'.start + 1 = b.start ∧
      b'.text = Char.ofUInt8 byte :: b.text := by
  obtain ⟨bytes, start, hle⟩ := b
  cases start with
  | zero => exact absurd h (Nat.lt_irrefl 0)
  | succ start =>
      refine ⟨_, rfl, rfl, ?_⟩
      have hlen : start < (bytes.toList.set start byte).length := by
        rw [List.length_set, Vector.length_toList]
        exact hle
      simp only [text, written, Vector.toList_set]
      rw [List.drop_eq_getElem_cons hlen, List.getElem_set_self,
        List.drop_set_of_lt (Nat.lt_succ_self start), List.map_cons]

theorem fill?_zero (b : DigitBuffer) : b.fill? 0 = some b := by
  rw [fill?, if_pos rfl]

theorem fill?_of_ne {n : UInt64} (hn : n ≠ 0) (b : DigitBuffer) :
    b.fill? n = (b.push? (48 + (n % 10).toUInt8)).bind fun b => b.fill? (n / 10) := by
  rw [fill?, if_neg hn]

/-- One digit: it stands in front of what was written, and if all digits had a place, so have those
that remain. -/
theorem fill?_step {n : UInt64} (hn : n ≠ 0) {b : DigitBuffer} (h : n.toNat < 10 ^ b.start) :
    ∃ b' : DigitBuffer, b.fill? n = b'.fill? (n / 10) ∧ (n / 10).toNat < 10 ^ b'.start ∧
      b'.text = Nat.digitChar (n.toNat % 10) :: b.text := by
  have hplace : 0 < b.start := by
    refine Nat.pos_of_ne_zero fun hstart => hn (UInt64.toNat_inj.mp ?_)
    rw [hstart] at h
    exact Nat.lt_one_iff.mp h
  obtain ⟨b', hpush, hstart, htext⟩ := push?_eq_some hplace (48 + (n % 10).toUInt8)
  refine ⟨b', ?_, ?_, ?_⟩
  · rw [fill?_of_ne hn, hpush, Option.bind_some]
  · rw [← hstart, Nat.pow_succ] at h
    rw [toNat_div_ten, Nat.div_lt_iff_lt_mul (by decide)]
    exact h
  · rw [htext, ofUInt8_lastDigit]

/-- Filling succeeds where the digits have a place, and puts them in front of what was written. -/
theorem fill?_eq_some {n : UInt64} (hn : n ≠ 0) {b : DigitBuffer} (h : n.toNat < 10 ^ b.start) :
    ∃ b', b.fill? n = some b' ∧ b'.text = Nat.toDigits 10 n.toNat ++ b.text := by
  obtain ⟨b', hfill, hlt, htext⟩ := fill?_step hn h
  by_cases hrest : n / 10 = 0
  · have hone : n.toNat < 10 := by
      have hzero := toNat_div_ten n
      rw [hrest] at hzero
      exact (Nat.div_eq_zero_iff_lt (by decide)).mp hzero.symm
    refine ⟨b', by rw [hfill, hrest, fill?_zero], ?_⟩
    rw [htext, Nat.mod_eq_of_lt hone, Nat.toDigits_of_lt_base hone]
    rfl
  · have hten : 10 ≤ n.toNat := by
      refine Nat.le_of_not_lt fun hone => hrest (UInt64.toNat_inj.mp ?_)
      rw [toNat_div_ten, Nat.div_eq_of_lt hone]
      rfl
    obtain ⟨b'', hfill', htext'⟩ := fill?_eq_some hrest hlt
    refine ⟨b'', hfill.trans hfill', ?_⟩
    rw [htext', htext, toNat_div_ten, Nat.toDigits_of_base_le (by decide) hten, List.append_assoc]
    rfl
termination_by n.toNat
decreasing_by
  rw [toNat_div_ten]
  omega

theorem text_empty : empty.text = [] := rfl

end DigitBuffer

/-! ## Numbers -/

theorem foldl_push (out : String) (bytes : List UInt8) :
    bytes.foldl (fun out byte => out.push (Char.ofUInt8 byte)) out =
      out ++ String.ofList (bytes.map Char.ofUInt8) := by
  induction bytes generalizing out with
  | nil => exact String.append_empty.symm
  | cons byte bytes ih =>
      rw [List.foldl_cons, ih, List.map_cons, String.ofList_cons, ← String.append_assoc,
        String.append_singleton]

/-- Both ways to write a number append its digits, and the buffer never runs out. -/
theorem appendNumber?_eq (out : String) (n : UInt64) :
    appendNumber? out n = some (out ++ String.ofList (Nat.toDigits 10 n.toNat)) := by
  by_cases hn : n < 10
  · have hlt : n.toNat < 10 := UInt64.lt_iff_toNat_lt.mp hn
    have hself : n % 10 = n := by
      rw [← UInt64.toNat_inj, UInt64.toNat_mod]
      exact Nat.mod_eq_of_lt hlt
    have hdigit := ofUInt8_lastDigit n
    rw [hself, Nat.mod_eq_of_lt hlt] at hdigit
    rw [appendNumber?, if_pos hn, hdigit, Nat.toDigits_of_lt_base hlt, ← String.append_singleton]
    rfl
  · have hne : n ≠ 0 := by
      rintro rfl
      exact hn (by decide)
    have hfits : n.toNat < 10 ^ DigitBuffer.empty.start := Nat.lt_trans n.toNat_lt (by decide)
    obtain ⟨b, hfill, htext⟩ := DigitBuffer.fill?_eq_some hne hfits
    rw [DigitBuffer.text_empty, List.append_nil] at htext
    rw [appendNumber?, if_neg hn, hfill, Option.map_some, foldl_push, ← htext]
    rfl

/-- The decimal form of a number, which is read as that number. -/
structure IsDecimal (digits : String) (n : Nat) : Prop where
  eq : digits.toList = Nat.toDigits 10 n
  isDigit : ∀ c ∈ digits.toList, c.isDigit = true
  unpadded : digits.toList.head? = some '0' → digits = "0"
  read : Interpolation.number? digits.toList = some n

theorem head?_toDigits {n : Nat} (h : (Nat.toDigits 10 n).head? = some '0') : n = 0 := by
  induction n using Nat.strongRecOn with
  | ind n ih =>
      by_cases hn : n < 10
      · rw [Nat.toDigits_of_lt_base hn, List.head?_cons] at h
        exact Nat.digitChar_eq_zero.mp (Option.some.inj h)
      · have hten : 10 ≤ n := Nat.le_of_not_lt hn
        have hhead : (Nat.toDigits 10 (n / 10)).head? = some '0' := by
          obtain ⟨c, cs, hcs⟩ := List.exists_cons_of_ne_nil
            (Nat.toDigits_ne_nil (n := n / 10) (b := 10))
          rw [Nat.toDigits_of_base_le (by decide) hten, hcs] at h
          rw [hcs]
          exact h
        have hzero := ih (n / 10) (Nat.div_lt_self (by omega) (by decide)) hhead
        omega

theorem isDecimal_toDigits (n : UInt64) :
    IsDecimal (String.ofList (Nat.toDigits 10 n.toNat)) n.toNat where
  eq := String.toList_ofList
  isDigit c hc := by
    rw [String.toList_ofList] at hc
    exact Nat.isDigit_of_mem_toDigits (by decide) (by decide) hc
  unpadded h := by
    rw [String.toList_ofList] at h
    rw [head?_toDigits h]
    rfl
  read := by
    rw [String.toList_ofList, Interpolation.number?_toDigits, if_pos]
    exact Nat.le_of_lt_succ n.toNat_lt

/-! ## Placeholders -/

namespace Dialect

theorem appendPlaceholder?_eq (d : Dialect) (out : String) (n : UInt64) :
    d.appendPlaceholder? out n = some (out ++ String.ofList (d.placeholder n.toNat)) := by
  have hsign (sign : Char) : out.push sign ++ String.ofList (Nat.toDigits 10 n.toNat) =
      out ++ String.ofList (sign :: Nat.toDigits 10 n.toNat) := by
    rw [String.ofList_cons, ← String.append_assoc, String.append_singleton]
  cases d with
  | postgres => exact (appendNumber?_eq _ n).trans (congrArg some (hsign '$'))
  | mysql => exact congrArg some String.append_singleton.symm
  | sqlite => exact (appendNumber?_eq _ n).trans (congrArg some (hsign '?'))

/-- Where placeholders have numbers, the number is read behind the sign. -/
theorem placeholder_inj {d : Dialect} (hd : d ≠ .mysql) {m n : UInt64}
    (h : d.placeholder m.toNat = d.placeholder n.toNat) : m = n := by
  have hdigits : Nat.toDigits 10 m.toNat = Nat.toDigits 10 n.toNat := by
    cases d with
    | mysql => exact absurd rfl hd
    | postgres | sqlite => exact (List.cons.inj h).2
  have hread := (isDecimal_toDigits m).read
  rw [hdigits, (isDecimal_toDigits n).read] at hread
  exact UInt64.toNat_inj.mp (Option.some.inj hread).symm

/-- A number is written with its decimal digits, for every word and after any text, and the buffer
is never too short. So placeholders that have numbers are different for different numbers. -/
theorem placeholders_numbered :
    (∀ (out : String) (n : UInt64), ∃ digits,
      appendNumber? out n = some (out ++ digits) ∧ IsDecimal digits n.toNat) ∧
    (∀ (d : Dialect) (out : String) (n : UInt64),
      d.appendPlaceholder? out n = some (out ++ String.ofList (d.placeholder n.toNat))) ∧
    (∀ (d : Dialect) (out : String),
      Function.Injective (d.appendPlaceholder? out) ↔ d ≠ .mysql) := by
  refine ⟨fun out n => ⟨_, appendNumber?_eq out n, isDecimal_toDigits n⟩, appendPlaceholder?_eq,
    fun d out => ⟨?_, fun hd m n h => ?_⟩⟩
  · rintro hinj rfl
    exact absurd (@hinj 0 1 rfl) (by decide)
  · rw [appendPlaceholder?_eq, appendPlaceholder?_eq] at h
    have hmarks := String.ofList_inj.mp ((String.append_right_inj out).mp (Option.some.inj h))
    exact placeholder_inj hd hmarks

end Dialect

end SqlCompose
