import SqlCompose.Proofs.Interpolation
import SqlCompose.Proofs.Literal
import SqlCompose.Proofs.Windows

/-!
# Templates cut at their slots

A template is literal text with slots in it, and there is only one way to read it so: a run of
question marks is a row of pairs, with a slot at its end if its length is odd. Counting the slots,
filling them and numbering them are three readings of a template, and all of them cut it in the same
places.
-/

namespace SqlCompose

namespace Neutral

/-! ## Cuts -/

/-- Texts with something before each but the first of them. -/
def weave (first : String) (rest fillers : List String) : String :=
  first ++ String.join (List.zipWith (· ++ ·) fillers rest)

/-- A neutral text is made of literal texts with slots between them. A question mark does not stand
behind a slot, be it one of the text or another slot: it would be read together with it. -/
structure Cut (t first : String) (rest : List String) : Prop where
  written : t = weave (escape first) (rest.map escape) (rest.map fun _ => "?")
  begun : ∀ s ∈ rest, s.toList.head? ≠ some '?'
  parted : ∀ s ∈ rest.dropLast, s ≠ ""

/-- The units of a cut text. -/
def units (first : String) (rest : List String) : List Mark :=
  literals first.toList ++ rest.flatMap fun s => .slot :: literals s.toList

theorem units_cons (first s : String) (rest : List String) :
    units first (s :: rest) = literals first.toList ++ .slot :: units s rest := by
  simp [units]

@[simp] theorem count_slot_units (first : String) (rest : List String) :
    (units first rest).count .slot = rest.length := by
  induction rest generalizing first with
  | nil => simp [units]
  | cons s rest ih => simp [units_cons, ih]

theorem literals_toList_inj {s t : String} (h : literals s.toList = literals t.toList) : s = t :=
  String.toList_inj.mp ((List.map_inj_right fun _ _ => Mark.literal.inj).mp h)

/-- Literal text reaches up to the first slot. -/
theorem takeWhile_literals_append_slot (cs : List Char) (ms : List Mark) :
    (literals cs ++ .slot :: ms).takeWhile (· ≠ .slot) = literals cs := by
  rw [List.takeWhile_append_of_pos (by simp [literals])]
  simp

/-- A row of units is cut in one way only: up to the first slot there is literal text. -/
theorem units_inj {first first' : String} {rest rest' : List String}
    (h : units first rest = units first' rest') : first = first' ∧ rest = rest' := by
  have hlength : rest.length = rest'.length := by
    rw [← count_slot_units first rest, h, count_slot_units]
  induction rest generalizing first first' rest' with
  | nil =>
      obtain rfl : rest' = [] := List.length_eq_zero_iff.mp hlength.symm
      exact ⟨literals_toList_inj (by simpa [units] using h), rfl⟩
  | cons s rest ih =>
      cases rest' with
      | nil => simp at hlength
      | cons s' rest' =>
          rw [units_cons, units_cons] at h
          have hfirst := congrArg (List.takeWhile (· ≠ .slot)) h
          rw [takeWhile_literals_append_slot, takeWhile_literals_append_slot] at hfirst
          obtain rfl := literals_toList_inj hfirst
          have hs := (List.cons.inj (List.append_cancel_left h)).2
          obtain ⟨rfl, rfl⟩ := ih hs (by simpa using hlength)
          exact ⟨rfl, rfl⟩

@[simp] theorem weave_nil (first : String) (fillers : List String) :
    weave first [] fillers = first := by simp [weave]

@[simp] theorem weave_cons (first s x : String) (rest fillers : List String) :
    weave first (s :: rest) (x :: fillers) = first ++ (x ++ weave s rest fillers) := by
  simp [weave, String.append_assoc]

/-- A cut text is the spelling of its units. -/
theorem toList_weave_slots (first : String) (rest : List String) :
    (weave (escape first) (rest.map escape) (rest.map fun _ => "?")).toList =
      (units first rest).flatMap Mark.chars := by
  induction rest generalizing first with
  | nil => simp [units]
  | cons s rest ih =>
      rw [List.map_cons, List.map_cons, weave_cons, String.toList_append, String.toList_append, ih,
        units_cons, List.flatMap_append, List.flatMap_cons, toList_escape]
      rfl

theorem quiet_units (s : String) (rest : List String) :
    Quiet (units s rest) ↔ s.toList.head? ≠ some '?' ∧ (rest ≠ [] → s ≠ "") := by
  cases hs : s.toList with
  | nil =>
      obtain rfl := String.toList_eq_nil_iff.mp hs
      cases rest <;> simp [units, literals, Mark.questions]
  | cons c cs =>
      have hne : s ≠ "" := by
        rintro rfl
        cases hs
      simp [units, literals, Mark.questions, hs, hne]

theorem separated_units (first : String) (rest : List String) :
    Separated (units first rest) ↔
      (∀ s ∈ rest, s.toList.head? ≠ some '?') ∧ ∀ s ∈ rest.dropLast, s ≠ "" := by
  have hskip (cs : List Char) (ms : List Mark) : Separated (literals cs ++ ms) ↔ Separated ms := by
    induction cs with
    | nil => rfl
    | cons c cs ih => exact separated_literal_cons.trans ih
  induction rest generalizing first with
  | nil => simpa [units] using separated_literals first.toList
  | cons s rest ih =>
      rw [units_cons, hskip, separated_slot_cons, quiet_units,
        and_congr_right_iff.mpr fun _ => ih s]
      cases rest with
      | nil => simp
      | cons r rest => simp [and_assoc, and_left_comm]

/-- A text is cut as it is read. -/
theorem cut_iff {t first : String} {rest : List String} :
    Cut t first rest ↔ marks t.toList = units first rest := by
  constructor
  · rintro ⟨rfl, hbegun, hparted⟩
    rw [toList_weave_slots]
    exact marks_flatMap_chars ((separated_units first rest).mpr ⟨hbegun, hparted⟩)
  · intro h
    obtain ⟨hbegun, hparted⟩ := (separated_units first rest).mp (h ▸ separated_marks t.toList)
    refine ⟨String.toList_inj.mp ?_, hbegun, hparted⟩
    rw [toList_weave_slots, ← h, flatMap_chars_marks]

/-- The last of three question marks is a slot. -/
example : Cut "a ??? b" "a ?" [" b"] := cut_iff.mpr (by decide)

theorem Cut.unique {t first first' : String} {rest rest' : List String} (h : Cut t first rest)
    (h' : Cut t first' rest') : first' = first ∧ rest' = rest :=
  units_inj ((cut_iff.mp h').symm.trans (cut_iff.mp h))

theorem Cut.slotCount {t first : String} {rest : List String} (h : Cut t first rest) :
    slotCount t = rest.length := by
  rw [Neutral.slotCount, cut_iff.mp h, count_slot_units]

end Neutral

/-! ## Filling -/

/-- What an argument puts into its slot; nothing for a list without values. -/
def Arg.render (e : Exclude) (a : Arg) : Fragment :=
  match a.doc? e with
  | some d => d.render
  | none => .empty

namespace Template

/-- What stands in the slots of a template with `n` of them. -/
def fillers (e : Exclude) (n : Nat) (args : List Arg) : List Fragment :=
  (args.take n).map (·.render e) ++ List.replicate (n - args.length) (.raw "NULL")

section Cut

variable {t first : String} {rest : List String} (hcut : Neutral.Cut t first rest) (e : Exclude)
  {args : List Arg}

include hcut

end Cut

end Template

/-! ## Numbering -/

namespace Template

end Template

end SqlCompose
