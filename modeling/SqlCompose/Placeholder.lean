import SqlCompose.Dialect

/-!
# Writing placeholders

A placeholder is appended to the text before it. Its number is a word of 64 bits. A number of one
digit is appended at once; the digits of a larger one go into a buffer first, the last digit first,
from the end of the buffer towards its start.
-/

namespace SqlCompose

/-- Twenty bytes, of which those from `start` on are written. -/
structure DigitBuffer where
  bytes : Vector UInt8 20
  start : Nat
  start_le : start ≤ 20

namespace DigitBuffer

/-- Nothing is written yet. -/
def empty : DigitBuffer := ⟨.replicate 20 0, 20, Nat.le_refl 20⟩

/-- The written bytes. -/
def written (b : DigitBuffer) : List UInt8 := b.bytes.toList.drop b.start

/-- Writes a byte in front of the written ones, if there is a place for it. -/
def push? (b : DigitBuffer) (byte : UInt8) : Option DigitBuffer :=
  match b with
  | ⟨_, 0, _⟩ => none
  | ⟨bytes, start + 1, h⟩ => some ⟨bytes.set start byte h, start, Nat.le_of_lt h⟩

/-- Writes the digits of a number, the last one first; zero has none. -/
def fill? (b : DigitBuffer) (n : UInt64) : Option DigitBuffer :=
  if n = 0 then some b
  else (b.push? (48 + (n % 10).toUInt8)).bind fun b => b.fill? (n / 10)
termination_by n.toNat
decreasing_by
  rename_i hn
  have hpos : n.toNat ≠ 0 := fun h => hn (UInt64.toNat_inj.mp h)
  rw [UInt64.toNat_div]
  exact Nat.div_lt_self (Nat.pos_of_ne_zero hpos) (by decide)

end DigitBuffer

/-- Appends the digits of a number to a text. -/
def appendNumber? (out : String) (n : UInt64) : Option String :=
  if n < 10 then some (out.push (Char.ofUInt8 (48 + n.toUInt8)))
  else (DigitBuffer.empty.fill? n).map fun b =>
    b.written.foldl (fun out byte => out.push (Char.ofUInt8 byte)) out

/-- Appends the placeholder of the `n`-th value to a text, as a dialect writes it. -/
def Dialect.appendPlaceholder? (d : Dialect) (out : String) (n : UInt64) : Option String :=
  match d with
  | .postgres => appendNumber? (out.push '$') n
  | .mysql => some (out.push '?')
  | .sqlite => appendNumber? (out.push '?') n

end SqlCompose
