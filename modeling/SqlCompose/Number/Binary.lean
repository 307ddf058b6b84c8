/-!
# Binary floating-point numbers by their bits

A single or double precision number is kept as its interchange bits, so that every pattern,
including each NaN, survives unchanged. `read` gives the exact value of a pattern as
`significand * 2 ^ exponent`.
-/

namespace SqlCompose

/-- The widths that fix a binary interchange format. -/
structure FloatFormat where
  fractionBits : Nat
  exponentBits : Nat
  deriving DecidableEq, Repr

namespace FloatFormat

/-- Four bytes: 23 bits of fraction, 8 bits of exponent. -/
def single : FloatFormat := ⟨23, 8⟩

/-- Eight bytes: 52 bits of fraction, 11 bits of exponent. -/
def double : FloatFormat := ⟨52, 11⟩

/-- The exponent field of the infinities and of every NaN. -/
def topExponent (f : FloatFormat) : Nat := Nat.pow 2 f.exponentBits - 1

/-- The exponent of the last fraction bit in the lowest binade. -/
def lowestExponent (f : FloatFormat) : Int :=
  2 - (Nat.pow 2 (f.exponentBits - 1) : Int) - (f.fractionBits : Int)

end FloatFormat

/-- What a bit pattern stands for. -/
inductive FloatReading where
  /-- Not a number. -/
  | nan
  /-- An infinity with its sign. -/
  | infinite (negative : Bool)
  /-- The number `± significand * 2 ^ exponent`. -/
  | finite (negative : Bool) (significand : Nat) (exponent : Int)
  deriving DecidableEq, Repr

/-- The value of `bits` in a format. -/
def FloatFormat.read (f : FloatFormat) (bits : Nat) : FloatReading :=
  let fraction := bits % Nat.pow 2 f.fractionBits
  let field := bits / Nat.pow 2 f.fractionBits % Nat.pow 2 f.exponentBits
  let negative := bits / Nat.pow 2 (f.fractionBits + f.exponentBits) % 2 == 1
  if field = f.topExponent then
    if fraction = 0 then .infinite negative else .nan
  else if field = 0 then .finite negative fraction f.lowestExponent
  else .finite negative (Nat.pow 2 f.fractionBits + fraction) (f.lowestExponent + field - 1)

/-- Equality of the numbers read: a NaN equals nothing, and the two zeros are equal. -/
def FloatReading.sameNumber : FloatReading → FloatReading → Bool
  | .nan, _ => false
  | _, .nan => false
  | .finite _ 0 _, .finite _ 0 _ => true
  | a, b => a == b

/-- A four-byte floating-point number. -/
structure Float4 where
  bits : UInt32
  deriving DecidableEq, Repr

/-- An eight-byte floating-point number. -/
structure Float8 where
  bits : UInt64
  deriving DecidableEq, Repr

/-- The number that a four-byte pattern stands for. -/
def Float4.read (x : Float4) : FloatReading := FloatFormat.single.read x.bits.toNat

/-- The number that an eight-byte pattern stands for. -/
def Float8.read (x : Float8) : FloatReading := FloatFormat.double.read x.bits.toNat

/-- The double nearest to `numerator / denominator`, ties to the even significand; beyond the
largest double it is an infinity. -/
def Float8.nearest (negative : Bool) (numerator denominator : Nat) : Float8 :=
  let sign : Nat := if negative then 0x8000000000000000 else 0
  if numerator = 0 then ⟨sign.toUInt64⟩
  else
    let low : Int := max (numerator.log2 - denominator.log2 - 53) (-1074)
    let fits :=
      numerator * Nat.pow 2 (-low).toNat < denominator * Nat.pow 2 (low.toNat + 53)
    let exponent := if fits then low else low + 1
    let n := numerator * Nat.pow 2 (-exponent).toNat
    let d := denominator * Nat.pow 2 exponent.toNat
    let q := n / d
    let r := n % d
    let rounded := if d < 2 * r || (d = 2 * r && q % 2 = 1) then q + 1 else q
    let bits := (exponent + 1074).toNat * Nat.pow 2 52 + rounded
    ⟨(sign + min bits (2047 * Nat.pow 2 52)).toUInt64⟩

/-- The double of the same value; every single is exactly a double. -/
def Float4.widen (x : Float4) : Float8 :=
  match x.read with
  | .nan => ⟨0x7ff8000000000000⟩
  | .infinite negative => ⟨if negative then 0xfff0000000000000 else 0x7ff0000000000000⟩
  | .finite negative significand exponent =>
    .nearest negative (significand * Nat.pow 2 exponent.toNat) (Nat.pow 2 (-exponent).toNat)

end SqlCompose
