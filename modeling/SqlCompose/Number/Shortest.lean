/-!
# The fewest decimal digits that read back

A finite binary number stands for every real that rounds to it. Among the decimals in that interval,
the one with the fewest digits is chosen, and of those the nearest to the number itself. The search
is exact: it compares natural numbers and never rounds.
-/

namespace SqlCompose

/-- Where a decimal goes when two of them are equally near. -/
inductive Tie where
  /-- Away from zero. -/
  | up
  /-- To the even last digit. -/
  | even
  deriving DecidableEq, Repr

/-- The decimal `digits * 10 ^ exponent`. -/
structure Decimal where
  digits : Nat
  exponent : Int
  deriving DecidableEq, Repr

namespace Decimal

/-- The number of decimal digits of a positive number. -/
def length (n : Nat) : Nat := (Nat.toDigits 10 n).length

/-- Moves trailing zeros of the digits into the exponent, at most `fuel` of them. -/
def stripZeros : Nat → Decimal → Decimal
  | 0, d => d
  | fuel + 1, d =>
    if d.digits % 10 = 0 && d.digits ≠ 0 then stripZeros fuel ⟨d.digits / 10, d.exponent + 1⟩ else d

/-- The reals that read back as one number, and the number: `lower`, `value` and `upper` are over
the denominator `unit`, and the two ends belong to the interval when `closed`. -/
structure Interval where
  lower : Nat
  value : Nat
  upper : Nat
  unit : Nat
  closed : Bool
  deriving DecidableEq, Repr

/-- The interval of `significand * 2 ^ exponent`. Below a power of two the next number is half as
far away, except in the lowest binade. -/
def Interval.around (significand : Nat) (exponent : Int) (powerOfTwo : Bool) : Interval :=
  let scale := exponent - 2
  let up : Nat := Nat.pow 2 scale.toNat
  { lower := (4 * significand - if powerOfTwo then 1 else 2) * up
    value := 4 * significand * up
    upper := (4 * significand + 2) * up
    unit := Nat.pow 2 (-scale).toNat
    closed := significand % 2 == 0 }

/-- The exponent of the leading decimal digit of a positive value. -/
def Interval.leading (i : Interval) : Int :=
  if i.unit ≤ i.value then (length (i.value / i.unit) : Int) - 1
  else -(length ((i.unit + i.value - 1) / i.value - 1) : Int)

/-- The nearest of the two neighbours of the value among the multiples of `10 ^ exponent` that lie
in the interval, if one of them does. -/
def Interval.pick (i : Interval) (tie : Tie) (exponent : Int) : Option Nat :=
  let step := i.unit * Nat.pow 10 exponent.toNat
  let up : Nat := Nat.pow 10 (-exponent).toNat
  let value := i.value * up
  let inside (n : Nat) : Bool :=
    if i.closed then i.lower * up ≤ n * step && n * step ≤ i.upper * up
    else i.lower * up < n * step && n * step < i.upper * up
  let low := value / step
  let below := value - low * step
  let above := (low + 1) * step - value
  let preferLow : Bool :=
    if below = above then
      match tie with
      | .up => false
      | .even => low % 2 == 0
    else decide (below < above)
  match inside low, inside (low + 1) with
  | true, true => some (if preferLow then low else low + 1)
  | true, false => some low
  | false, true => some (low + 1)
  | false, false => none

/-- Tries one more digit until a decimal lies in the interval, at most `fuel` times. -/
def Interval.search (i : Interval) (tie : Tie) : Nat → Int → Decimal
  | 0, exponent =>
    let step := i.unit * Nat.pow 10 exponent.toNat
    ⟨i.value * Nat.pow 10 (-exponent).toNat / step, exponent⟩
  | fuel + 1, exponent =>
    match i.pick tie exponent with
    | some n => ⟨n, exponent⟩
    | none => i.search tie fuel (exponent - 1)

/-- The shortest decimal in an interval, without trailing zeros. -/
def Interval.shortest (i : Interval) (tie : Tie) : Decimal :=
  stripZeros 20 (i.search tie 20 i.leading)

end Decimal

end SqlCompose
