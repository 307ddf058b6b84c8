import SqlCompose.Json.Basic
import SqlCompose.Text.Hex

/-!
# Reading JSON text

Each reader takes the characters in front of it and gives its value with the characters that remain.
Arrays and objects may be nested 127 deep. A number that is no 64-bit integer becomes a double: its
leading digits, as far as they fit 64 bits, are scaled by a power of ten in double arithmetic, so
the last bit of a long number can differ from the nearest double.
-/

namespace SqlCompose.Json.Reader

/-- Drops the white space in front. -/
def skipSpace (s : List Char) : List Char :=
  s.dropWhile fun c => c = ' ' || c = '\n' || c = '\t' || c = '\r'

/-- The characters after an exact word. -/
def word? : List Char → List Char → Option (List Char)
  | [], s => some s
  | w :: ws, c :: s => if w = c then word? ws s else none
  | _ :: _, [] => none

/-- The value of a decimal digit. -/
def digit? (c : Char) : Option Nat := if c.isDigit then some (c.toNat - 48) else none

/-! ## Strings -/

/-- Four hexadecimal digits. -/
def unit? : List Char → Option (Nat × List Char)
  | a :: b :: c :: d :: rest => (Text.hexNumber? [a, b, c, d]).map (·, rest)
  | _ => none

/-- The character of an escape with a single letter. -/
def shortEscape? (c : Char) : Option Char :=
  if c = '"' || c = '\\' || c = '/' then some c
  else if c = 'b' then some (Char.ofNat 8)
  else if c = 'f' then some (Char.ofNat 12)
  else if c = 'n' then some '\n'
  else if c = 'r' then some '\r'
  else if c = 't' then some '\t'
  else none

/-- The character of an escape by code units, after its first letter: a high surrogate needs a low
one. -/
def unicodeEscape? (s : List Char) : Option (Char × List Char) := do
  let (high, rest) ← unit? s
  if 0xd800 ≤ high && high < 0xdc00 then
    match rest with
    | '\\' :: 'u' :: rest =>
      let (low, rest) ← unit? rest
      if 0xdc00 ≤ low && low < 0xe000 then
        some (Char.ofNat (0x10000 + (high - 0xd800) * 0x400 + (low - 0xdc00)), rest)
      else none
    | _ => none
  else if 0xdc00 ≤ high && high < 0xe000 then none
  else some (Char.ofNat high, rest)

/-- The characters of a string after its opening quote; `fuel` bounds their number. -/
def stringTail? : Nat → List Char → Option (List Char × List Char)
  | 0, _ => none
  | _ + 1, [] => none
  | fuel + 1, c :: rest =>
    if c = '"' then some ([], rest)
    else if c = '\\' then
      match rest with
      | [] => none
      | e :: rest =>
        if e = 'u' then do
          let (d, rest) ← unicodeEscape? rest
          let (ds, rest) ← stringTail? fuel rest
          return (d :: ds, rest)
        else do
          let d ← shortEscape? e
          let (ds, rest) ← stringTail? fuel rest
          return (d :: ds, rest)
    else if c.toNat < 32 then none
    else do
      let (ds, rest) ← stringTail? fuel rest
      return (c :: ds, rest)

/-- A string after its opening quote. -/
def string? (s : List Char) : Option (String × List Char) :=
  (stringTail? (s.length + 1) s).map fun (cs, rest) => (String.ofList cs, rest)

/-! ## Numbers -/

/-- The largest integer that is read exactly. -/
def largest : Nat := 0xffffffffffffffff

/-- Appends decimal digits to a significand while it stays within 64 bits: the significand, the
number of digits taken and what remains. -/
def takeDigits (significand taken : Nat) : List Char → Nat × Nat × List Char
  | [] => (significand, taken, [])
  | c :: rest =>
    match digit? c with
    | none => (significand, taken, c :: rest)
    | some d =>
      if largest < significand * 10 + d then (significand, taken, c :: rest)
      else takeDigits (significand * 10 + d) (taken + 1) rest

/-- The numerator and denominator of a finite double. -/
def ratio (x : Float8) : Nat × Nat :=
  match x.read with
  | .finite _ significand exponent =>
    (significand * Nat.pow 2 exponent.toNat, Nat.pow 2 (-exponent).toNat)
  | _ => (0, 1)

/-- The double nearest to a power of ten. -/
def power (k : Nat) : Nat × Nat := ratio (.nearest false (Nat.pow 10 k) 1)

/-- A double divided by a power of ten. -/
def divide (x : Float8) (k : Nat) : Float8 :=
  let (n, d) := ratio x
  let (pn, pd) := power k
  .nearest false (n * pd) (d * pn)

/-- A double multiplied by a power of ten. -/
def multiply (x : Float8) (k : Nat) : Float8 :=
  let (n, d) := ratio x
  let (pn, pd) := power k
  .nearest false (n * pn) (d * pd)

/-- A double scaled by `10 ^ exponent`, in steps of at most 308 digits; nothing if it is too large.
After four steps down every double has become zero. -/
def scale? : Nat → Float8 → Int → Option Float8
  | 0, x, _ => some x
  | fuel + 1, x, exponent =>
    if (ratio x).1 = 0 then some x
    else if 308 < exponent then none
    else if 0 ≤ exponent then
      let y := multiply x exponent.toNat
      match y.read with
      | .finite .. => some y
      | _ => none
    else if -308 ≤ exponent then some (divide x (-exponent).toNat)
    else scale? fuel (divide x 308) (exponent + 308)

/-- The double of a sign, a significand and a decimal exponent. -/
def float? (negative : Bool) (significand : Nat) (exponent : Int) : Option JsonNumber := do
  let x ← scale? 8 (.nearest false significand 1) exponent
  return .float ⟨if negative then x.bits ||| 0x8000000000000000 else x.bits⟩

/-- The exponent part of a number, if there is one. -/
def exponent? (s : List Char) : Option (Int × List Char) :=
  match s with
  | e :: rest =>
    if e = 'e' || e = 'E' then
      let (down, rest) :=
        match rest with
        | '+' :: rest => (false, rest)
        | '-' :: rest => (true, rest)
        | rest => (false, rest)
      let digits := rest.takeWhile Char.isDigit
      if digits.isEmpty then none
      else
        let n : Nat := digits.foldl (fun n c => n * 10 + (c.toNat - 48)) 0
        some (if down then -(n : Int) else (n : Int), rest.drop digits.length)
    else some (0, s)
  | [] => some (0, s)

/-- Whether the next character opens a fraction or an exponent. -/
def continues (s : List Char) : Bool :=
  match s with
  | c :: _ => c = '.' || c = 'e' || c = 'E'
  | [] => false

/-- The digits after a decimal point: the significand, the exponent and what remains. -/
def fraction? (significand : Nat) (exponent : Int) (s : List Char) :
    Option (Nat × Int × List Char) :=
  match s with
  | '.' :: rest =>
    match rest with
    | c :: _ =>
      if c.isDigit then
        let (significand, taken, rest) := takeDigits significand 0 rest
        some (significand, exponent - taken, rest.dropWhile Char.isDigit)
      else none
    | [] => none
  | s => some (significand, exponent, s)

/-- A number after its sign. -/
def number? (negative : Bool) (s : List Char) : Option (JsonNumber × List Char) := do
  let (significand, taken, rest) := takeDigits 0 0 s
  if taken = 0 then none
  else if s.head? = some '0' && 1 < taken then none
  else
    let dropped := (rest.takeWhile Char.isDigit).length
    let rest := rest.drop dropped
    if dropped = 0 && !continues rest then
      if negative then
        if significand = 0 || 0x8000000000000000 < significand then
          let x ← float? true significand 0
          return (x, rest)
        else return (.negative (-(significand : Int)), rest)
      else return (.natural significand, rest)
    else
      let (significand, exponent, rest) ← fraction? significand dropped rest
      let (shift, rest) ← exponent? rest
      let x ← float? negative significand (exponent + shift)
      return (x, rest)

/-! ## Values -/

mutual

/-- A value; `depth` is how deep arrays and objects may still be nested. -/
def value? : Nat → Nat → List Char → Option (Json × List Char)
  | 0, _, _ => none
  | fuel + 1, depth, s =>
    match skipSpace s with
    | [] => none
    | 'n' :: rest => (word? ['u', 'l', 'l'] rest).map (Json.null, ·)
    | 't' :: rest => (word? ['r', 'u', 'e'] rest).map (Json.bool true, ·)
    | 'f' :: rest => (word? ['a', 'l', 's', 'e'] rest).map (Json.bool false, ·)
    | '"' :: rest => (string? rest).map fun (t, rest) => (.string t, rest)
    | '-' :: rest => (number? true rest).map fun (n, rest) => (.number n, rest)
    | '[' :: rest =>
      match depth with
      | 0 => none
      | depth + 1 =>
        match skipSpace rest with
        | ']' :: rest => some (.array [], rest)
        | rest => (items? fuel depth rest).map fun (vs, rest) => (.array vs, rest)
    | '\x7b' :: rest =>
      match depth with
      | 0 => none
      | depth + 1 =>
        match skipSpace rest with
        | '\x7d' :: rest => some (.object [], rest)
        | rest => (members? fuel depth [] rest).map fun (ms, rest) => (.object ms, rest)
    | c :: rest =>
      if c.isDigit then (number? false (c :: rest)).map fun (n, rest) => (.number n, rest)
      else none

/-- The items of an array and its closing bracket. -/
def items? : Nat → Nat → List Char → Option (List Json × List Char)
  | 0, _, _ => none
  | fuel + 1, depth, s => do
    let (v, rest) ← value? fuel depth s
    match skipSpace rest with
    | ']' :: rest => some ([v], rest)
    | ',' :: rest =>
      let (vs, rest) ← items? fuel depth rest
      return (v :: vs, rest)
    | _ => none

/-- The members of an object and its closing brace, added to those read before. -/
def members? : Nat → Nat → List (String × Json) → List Char →
    Option (List (String × Json) × List Char)
  | 0, _, _, _ => none
  | fuel + 1, depth, before, s => do
    match skipSpace s with
    | '"' :: rest =>
      let (key, rest) ← string? rest
      match skipSpace rest with
      | ':' :: rest =>
        let (v, rest) ← value? fuel depth rest
        let members := insertMember key v before
        match skipSpace rest with
        | '\x7d' :: rest => some (members, rest)
        | ',' :: rest => members? fuel depth members rest
        | _ => none
      | _ => none
    | _ => none
end

end Reader

/-- The value of a whole JSON text. -/
def parse? (s : String) : Option Json :=
  match Reader.value? (s.length + 1) 127 s.toList with
  | some (v, rest) => if (Reader.skipSpace rest).isEmpty then some v else none
  | none => none

end SqlCompose.Json
