import SqlCompose.Proofs.Marks

/-!
# Numbered text

The text of a dialect is made of characters and markers. The markers are numbered from one, in the
order of the slots, whatever stands between them.
-/

namespace SqlCompose.Dialect

inductive Sign where
  | char (c : Char)
  | marker (n : Nat)

def Sign.chars (d : Dialect) : Sign → List Char
  | .char c => [c]
  | .marker n => d.placeholder n

def Sign.number? : Sign → Option Nat
  | .char _ => none
  | .marker n => some n

/-- The units of a neutral text with its slots numbered, when `n` slots came before. -/
def number : Nat → List Neutral.Mark → List Sign
  | _, [] => []
  | n, .literal c :: ms => .char c :: number n ms
  | n, .slot :: ms => .marker (n + 1) :: number (n + 1) ms

theorem spell_eq (d : Dialect) (n : Nat) (ms : List Neutral.Mark) :
    d.spell n ms = (number n ms).flatMap (Sign.chars d) := by
  induction ms generalizing n with
  | nil => rfl
  | cons m ms ih => cases m <;> simp [spell, number, Sign.chars, ih]

theorem spell_append (d : Dialect) (n : Nat) (a b : List Neutral.Mark) :
    d.spell n (a ++ b) = d.spell n a ++ d.spell (n + a.count .slot) b := by
  induction a generalizing n with
  | nil => rfl
  | cons m a ih =>
      cases m with
      | literal c => simp [spell, ih]
      | slot => simp [spell, ih, Nat.add_right_comm, ← Nat.add_assoc]

theorem spell_literals (d : Dialect) (n : Nat) (s : List Char) :
    d.spell n (Neutral.literals s) = s := by
  induction s with
  | nil => rfl
  | cons c s ih =>
      have hc : Neutral.literals (c :: s) = .literal c :: Neutral.literals s := rfl
      rw [hc, spell, ih]

theorem filterMap_number (n : Nat) (ms : List Neutral.Mark) :
    (number n ms).filterMap Sign.number? = List.range' (n + 1) (ms.count .slot) := by
  induction ms generalizing n with
  | nil => rfl
  | cons m ms ih =>
      cases m with
      | literal c => simp [number, Sign.number?, List.filterMap_cons, ih]
      | slot => simp [number, Sign.number?, ih, List.range'_succ]

theorem toList_renumber (d : Dialect) (f : Fragment) :
    (d.renumber f).sql.toList =
      (number 0 (Neutral.marks f.sql.toList)).flatMap (Sign.chars d) := by
  simp [renumber, spell_eq]

end SqlCompose.Dialect
