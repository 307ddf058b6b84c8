import SqlCompose.Value.Literal
import Mathlib.Tactic.IntervalCases

/-!
# Literals read back

A quoted literal is read from one quote to the next that stands alone, and two quotes together stand
for one. What a value writes between its quotes is read again, and reading stops where the literal
stops. Only a quote right behind it would continue it.
-/

namespace SqlCompose

namespace Text

/-! ## Reading a literal -/

/-- Reads a literal behind its first quote: what it says, and the text after it. -/
def readInside : List Char → Option (List Char × List Char)
  | [] => none
  | '\'' :: '\'' :: rest => (readInside rest).map fun (s, after) => ('\'' :: s, after)
  | '\'' :: rest => some ([], rest)
  | c :: rest => (readInside rest).map fun (s, after) => (c :: s, after)

/-- Reads the literal that a text begins with. -/
def readLiteral : List Char → Option (List Char × List Char)
  | '\'' :: rest => readInside rest
  | _ => none

theorem doubleQuotes_quote (s : List Char) :
    doubleQuotes ('\'' :: s) = '\'' :: '\'' :: doubleQuotes s := rfl

theorem doubleQuotes_of_ne {c : Char} (h : c ≠ '\'') (s : List Char) :
    doubleQuotes (c :: s) = c :: doubleQuotes s := by
  rw [doubleQuotes, List.flatMap_cons, if_neg h]
  rfl

theorem readInside_of_ne {c : Char} (h : c ≠ '\'') (rest : List Char) :
    readInside (c :: rest) = (readInside rest).map fun (s, after) => (c :: s, after) := by
  simp [readInside, h]

theorem readInside_end {rest : List Char} (h : rest.head? ≠ some '\'') :
    readInside ('\'' :: rest) = some ([], rest) := by
  cases rest with
  | nil => rfl
  | cons c rest =>
      have hc : c ≠ '\'' := fun hc => h (congrArg some hc)
      simp [readInside, hc]

theorem readInside_doubleQuotes (s : List Char) {rest : List Char} (h : rest.head? ≠ some '\'') :
    readInside (doubleQuotes s ++ '\'' :: rest) = some (s, rest) := by
  induction s with
  | nil => exact readInside_end h
  | cons c s ih =>
      by_cases hc : c = '\''
      · subst hc
        rw [doubleQuotes_quote, List.cons_append, List.cons_append, readInside, ih]
        rfl
      · rw [doubleQuotes_of_ne hc, List.cons_append, readInside_of_ne hc, ih]
        rfl

theorem eq_of_readInside {t s rest : List Char} (h : readInside t = some (s, rest)) :
    t = doubleQuotes s ++ '\'' :: rest ∧ rest.head? ≠ some '\'' := by
  fun_induction readInside t generalizing s with
  | case1 => cases h
  | case2 t ih =>
      obtain ⟨⟨s', rest'⟩, hread, heq⟩ := Option.map_eq_some_iff.mp h
      obtain ⟨rfl, rfl⟩ := Prod.mk.inj heq
      obtain ⟨rfl, hrest⟩ := ih hread
      exact ⟨rfl, hrest⟩
  | case3 t halone =>
      obtain ⟨rfl, rfl⟩ := Prod.mk.inj (Option.some.inj h)
      refine ⟨rfl, fun hhead => ?_⟩
      obtain ⟨t', rfl⟩ := List.head?_eq_some_iff.mp hhead
      exact halone t' rfl
  | case4 c t _ hc ih =>
      obtain ⟨⟨s', rest'⟩, hread, heq⟩ := Option.map_eq_some_iff.mp h
      obtain ⟨rfl, rfl⟩ := Prod.mk.inj heq
      obtain ⟨rfl, hrest⟩ := ih hread
      rw [doubleQuotes_of_ne hc]
      exact ⟨rfl, hrest⟩

/-- The texts that a literal is read from are those that begin with its quoted form, and with no
further quote behind it. -/
theorem readLiteral_eq_some_iff {t s rest : List Char} :
    readLiteral t = some (s, rest) ↔
      t = '\'' :: (doubleQuotes s ++ '\'' :: rest) ∧ rest.head? ≠ some '\'' := by
  constructor
  · intro h
    unfold readLiteral at h
    split at h
    · obtain ⟨rfl, hrest⟩ := eq_of_readInside h
      exact ⟨rfl, hrest⟩
    · cases h
  · rintro ⟨rfl, hrest⟩
    exact readInside_doubleQuotes s hrest

theorem toList_quote (s : String) :
    (quote s).toList = '\'' :: (doubleQuotes s.toList ++ ['\'']) := by
  simp [quote]

theorem readLiteral_quote_iff (s : String) (rest : List Char) :
    readLiteral ((quote s).toList ++ rest) = some (s.toList, rest) ↔ rest.head? ≠ some '\'' := by
  rw [readLiteral_eq_some_iff, toList_quote, List.cons_append, List.append_assoc]
  exact and_iff_right rfl

/-- A quote ends a literal only where it stands alone. -/
example : readLiteral ((quote "it's").toList ++ " OR 'x'".toList) =
    some ("it's".toList, " OR 'x'".toList) := by
  decide

theorem quote_injective : Function.Injective quote := by
  intro s t h
  have hs := (readLiteral_quote_iff s []).mpr nofun
  rw [h, (readLiteral_quote_iff t []).mpr nofun] at hs
  exact String.toList_inj.mp (Prod.mk.inj (Option.some.inj hs)).1.symm

/-! ## Hexadecimal text -/

/-- The digits that bytes are written with. -/
def lowerDigits : List Char := "0123456789abcdef".toList

theorem hexDigit_mem_lowerDigits {n : Nat} (h : n < 16) : hexDigit n ∈ lowerDigits := by
  interval_cases n <;> decide

theorem hexValue?_hexDigit {n : Nat} (h : n < 16) : hexValue? (hexDigit n) = some n := by
  interval_cases n <;> rfl

theorem mem_lowerDigits_of_mem_hexByte {b : UInt8} {c : Char} (h : c ∈ hexByte b) :
    c ∈ lowerDigits := by
  have hb := b.toNat_lt
  rw [hexByte, List.mem_cons, List.mem_singleton] at h
  rcases h with rfl | rfl
  · exact hexDigit_mem_lowerDigits (by omega)
  · exact hexDigit_mem_lowerDigits (by omega)

/-- The two digits of a byte are read as that byte. -/
theorem unhex?_hexByte_append (b : UInt8) (rest : List Char) :
    unhex? (hexByte b ++ rest) = (unhex? rest).map (b :: ·) := by
  have hb := b.toNat_lt
  have hhigh : hexValue? (hexDigit (b.toNat / 16)) = some (b.toNat / 16) :=
    hexValue?_hexDigit (by omega)
  have hlow : hexValue? (hexDigit (b.toNat % 16)) = some (b.toNat % 16) :=
    hexValue?_hexDigit (by omega)
  have hbyte : (b.toNat / 16 * 16 + b.toNat % 16).toUInt8 = b := by
    rw [Nat.div_add_mod']
    exact UInt8.ofNat_toNat
  rw [hexByte, List.cons_append, List.cons_append, unhex?, hhigh, hlow, List.nil_append]
  simp only [Option.bind_eq_bind, Option.bind_some, hbyte]
  cases unhex? rest <;> rfl

theorem unhex?_hex (bs : List UInt8) : unhex? (hex bs).toList = some bs := by
  rw [hex, String.toList_ofList]
  induction bs with
  | nil => rfl
  | cons b bs ih => rw [List.flatMap_cons, unhex?_hexByte_append, ih, Option.map_some]

theorem length_hex (bs : List UInt8) : (hex bs).toList.length = 2 * bs.length := by
  rw [hex, String.toList_ofList]
  induction bs with
  | nil => rfl
  | cons b bs ih =>
      rw [List.flatMap_cons, List.length_append, ih, List.length_cons, hexByte]
      simp only [List.length_cons, List.length_nil]
      omega

theorem mem_lowerDigits_of_mem_hex {bs : List UInt8} {c : Char} (h : c ∈ (hex bs).toList) :
    c ∈ lowerDigits := by
  rw [hex, String.toList_ofList] at h
  obtain ⟨b, -, hb⟩ := List.mem_flatMap.mp h
  exact mem_lowerDigits_of_mem_hexByte hb

theorem hex_injective : Function.Injective hex := by
  intro bs bs' h
  have hbs := unhex?_hex bs
  rw [h, unhex?_hex] at hbs
  exact (Option.some.inj hbs).symm

/-- Text without quotes stands between its quotes as it is. -/
theorem doubleQuotes_eq_self {s : List Char} (h : '\'' ∉ s) : doubleQuotes s = s := by
  induction s with
  | nil => rfl
  | cons c s ih =>
      rw [List.mem_cons, not_or] at h
      rw [doubleQuotes_of_ne (Ne.symm h.1), ih h.2]

end Text

/-! ## Literals of values -/

namespace Value

/-- A literal is read as a text, and reading it leaves what follows it, if that does not begin with
a quote. -/
def ReadsAs (v : Value) (s : String) : Prop :=
  ∀ rest : List Char,
    Text.readLiteral (v.literal.toList ++ rest) = some (s.toList, rest) ↔ rest.head? ≠ some '\''

theorem readsAs_of_quote {v : Value} {s : String} (h : v.literal = Text.quote s) : v.ReadsAs s := by
  intro rest
  rw [h]
  exact Text.readLiteral_quote_iff s rest

theorem literal_bytes (bs : List UInt8) :
    (bytes bs).literal = Text.quote ("\\x" ++ Text.hex bs) := by
  have hplain : '\'' ∉ ("\\x" ++ Text.hex bs).toList := by
    rw [String.toList_append, List.mem_append, not_or]
    refine ⟨by decide, fun h => ?_⟩
    have hdigit := Text.mem_lowerDigits_of_mem_hex h
    revert hdigit
    decide
  rw [Text.quote, Text.doubleQuotes_eq_self hplain, String.ofList_toList, literal]
  rfl

/-- The literals of texts, of bytes and of documents are read as what they stand for and end where
they end. Bytes are read as two digits each, which give the bytes back; so different texts have
different literals, and so have different bytes. -/
theorem literals_read_back :
    (∀ s, (text s).ReadsAs s) ∧
    (∀ bs, ∃ digits : String, (bytes bs).ReadsAs ("\\x" ++ digits) ∧
      digits.toList.length = 2 * bs.length ∧ (∀ c ∈ digits.toList, c ∈ Text.lowerDigits) ∧
      Text.unhex? digits.toList = some bs) ∧
    (∀ j, (json j).ReadsAs j.text) ∧
    Function.Injective (fun s => (text s).literal) ∧
    Function.Injective (fun bs => (bytes bs).literal) := by
  refine ⟨fun s => readsAs_of_quote rfl, fun bs => ?_, fun j => readsAs_of_quote rfl,
    Text.quote_injective, fun bs bs' h => ?_⟩
  · exact ⟨Text.hex bs, readsAs_of_quote (literal_bytes bs), Text.length_hex bs,
      fun c hc => Text.mem_lowerDigits_of_mem_hex hc, Text.unhex?_hex bs⟩
  · have hquoted : Text.quote ("\\x" ++ Text.hex bs) = Text.quote ("\\x" ++ Text.hex bs') := by
      rw [← literal_bytes, ← literal_bytes]
      exact h
    exact Text.hex_injective ((String.append_right_inj _).mp (Text.quote_injective hquoted))

end Value

end SqlCompose
