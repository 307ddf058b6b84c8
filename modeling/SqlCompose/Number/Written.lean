import SqlCompose.Number.Binary
import SqlCompose.Number.Shortest

/-!
# Written numbers

How the digits of a floating-point number are laid out: positionally or with an exponent, with or
without a trailing `.0`. A style is one value; the three styles in use differ only in these choices.
-/

namespace SqlCompose

/-- The choices of a floating-point printer. -/
structure NumberStyle where
  /-- Which of two equally near decimals is taken. -/
  tie : Tie
  /-- The exponents of the leading digit that are written positionally; `none` writes all so. -/
  positional : Option (Int × Int)
  /-- Whether a whole number keeps `.0`. -/
  keepsPoint : Bool
  /-- The sign written before an exponent that is not negative. -/
  plus : String
  deriving Repr

namespace NumberStyle

/-- The digits of SQL literals: positional at every size. -/
def plain : NumberStyle := ⟨.up, none, false, ""⟩

/-- The digits of diagnostic dumps: an exponent from `1e16` up and below `1e-4`. -/
def dump : NumberStyle := ⟨.up, some (-4, 15), true, ""⟩

/-- The digits of JSON text: an exponent from `1e+16` up and below `1e-5`. -/
def json : NumberStyle := ⟨.even, some (-5, 15), true, "+"⟩

/-- `k` zeros. -/
def zeros (k : Nat) : String := String.ofList (List.replicate k '0')

/-- The digits written around the decimal point. -/
def placed (s : NumberStyle) (digits : String) (exponent : Int) : String :=
  let point := exponent + digits.length
  if 0 ≤ exponent then digits ++ zeros exponent.toNat ++ if s.keepsPoint then ".0" else ""
  else if point ≤ 0 then "0." ++ zeros (-point).toNat ++ digits
  else
    let cs := digits.toList
    String.ofList (cs.take point.toNat) ++ "." ++ String.ofList (cs.drop point.toNat)

/-- One digit, the others after a point, then the exponent. -/
def scientific (s : NumberStyle) (digits : String) (leading : Int) : String :=
  let cs := digits.toList
  let fraction := if cs.length ≤ 1 then "" else "." ++ String.ofList (cs.drop 1)
  let sign := if leading < 0 then "-" else s.plus
  String.ofList (cs.take 1) ++ fraction ++ "e" ++ sign ++ toString leading.natAbs

/-- A decimal in a style. -/
def decimal (s : NumberStyle) (d : Decimal) : String :=
  let digits := toString d.digits
  let leading := d.exponent + digits.length - 1
  let inRange :=
    match s.positional with
    | none => true
    | some (low, high) => low ≤ leading && leading ≤ high
  if inRange then s.placed digits d.exponent else s.scientific digits leading

/-- A number of a format in a style; what is not finite is written by `special`. -/
def number (s : NumberStyle) (f : FloatFormat) (special : FloatReading → String) :
    FloatReading → String
  | .finite negative significand exponent =>
    let sign := if negative then "-" else ""
    if significand = 0 then sign ++ if s.keepsPoint then "0.0" else "0"
    else
      let lone := significand == Nat.pow 2 f.fractionBits && f.lowestExponent < exponent
      sign ++ s.decimal ((Decimal.Interval.around significand exponent lone).shortest s.tie)
  | r => special r

end NumberStyle

/-- The names of what is not a finite number in dumps. -/
def FloatReading.specialName : FloatReading → String
  | .nan => "NaN"
  | .infinite true => "-inf"
  | .infinite false => "inf"
  | .finite .. => ""

/-- A double as dumps show it. -/
def Float8.dump (x : Float8) : String :=
  NumberStyle.dump.number .double FloatReading.specialName x.read

/-- A single as dumps show it. -/
def Float4.dump (x : Float4) : String :=
  NumberStyle.dump.number .single FloatReading.specialName x.read

end SqlCompose
