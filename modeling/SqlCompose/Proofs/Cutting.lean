import SqlCompose.Session.Log
import Mathlib.Data.List.Infix

/-!
# Cutting statements for the log

A cut counts bytes, and a character may take several. The cut goes back from the limit to the end of
a character: it looks at one byte position after the other, down from the limit, and takes the first
that no character crosses. The text up to there is the longest beginning that fits.
-/

namespace SqlCompose

namespace Text

/-! ## Beginnings -/

/-- Whole characters from the start of a text. -/
def Begins (p s : String) : Prop := p.toList <+: s.toList

theorem begins_iff {p s : String} : Begins p s ↔ ∃ rest, s = p ++ rest := by
  constructor
  · rintro ⟨rest, h⟩
    refine ⟨String.ofList rest, String.toList_inj.mp ?_⟩
    rw [String.toList_append, String.toList_ofList, h]
  · rintro ⟨rest, rfl⟩
    exact ⟨rest.toList, String.toList_append.symm⟩

theorem Begins.bytes_le {p s : String} (h : Begins p s) : p.utf8ByteSize ≤ s.utf8ByteSize := by
  obtain ⟨rest, rfl⟩ := begins_iff.mp h
  rw [String.utf8ByteSize_append]
  exact Nat.le_add_right _ _

/-- A beginning that is not all of a text can be longer by a character. -/
theorem Begins.exists_longer {p s : String} (h : Begins p s) (hne : p ≠ s) :
    ∃ c, Begins (p.push c) s := by
  obtain ⟨rest, hrest⟩ := h
  cases rest with
  | nil =>
      rw [List.append_nil] at hrest
      exact absurd (String.toList_inj.mp hrest) hne
  | cons c rest =>
      refine ⟨c, rest, ?_⟩
      rw [String.toList_push, List.append_assoc]
      exact hrest

/-- Of two beginnings of a text, the one with fewer bytes begins the other. -/
theorem Begins.of_bytes_le {p q s : String} (hp : Begins p s) (hq : Begins q s)
    (h : p.utf8ByteSize ≤ q.utf8ByteSize) : Begins p q := by
  rcases List.prefix_or_prefix_of_prefix hp hq with hpq | hqp
  · exact hpq
  · -- a longer `p` would take more bytes, by its last character at least
    by_cases hne : q = p
    · subst hne
      exact List.prefix_rfl
    · obtain ⟨c, hc⟩ := Begins.exists_longer hqp hne
      have hbytes := hc.bytes_le
      have hpos := c.utf8Size_pos
      rw [String.utf8ByteSize_push] at hbytes
      omega

/-- The longest beginning of a text that takes at most some bytes. -/
structure LongestWithin (s : String) (max : Nat) (p : String) : Prop where
  begins : Begins p s
  fits : p.utf8ByteSize ≤ max
  longest : ∀ q, Begins q s → q.utf8ByteSize ≤ max → Begins q p

namespace LongestWithin

variable {s p q : String} {max : Nat}

theorem unique (hp : LongestWithin s max p) (hq : LongestWithin s max q) : p = q := by
  have hpq := hq.longest p hp.begins hp.fits
  have hqp := hp.longest q hq.begins hq.fits
  exact String.toList_inj.mp (hpq.eq_of_length (Nat.le_antisymm hpq.length_le hqp.length_le))

/-- The next character would not fit, and it takes at most four bytes. -/
theorem max_lt (h : LongestWithin s max p) (hmax : max < s.utf8ByteSize) :
    max < p.utf8ByteSize + 4 := by
  have hne : p ≠ s := by
    rintro rfl
    exact absurd h.fits (Nat.not_le.mpr hmax)
  obtain ⟨c, hc⟩ := h.begins.exists_longer hne
  have hpush := String.utf8ByteSize_push (s := p) (c := c)
  have hfour := c.utf8Size_le_four
  by_contra hlt
  have hlonger := (h.longest (p.push c) hc (by omega)).bytes_le
  have hpos := c.utf8Size_pos
  omega

/-- A beginning that fits is the longest if no further character fits. -/
theorem of_next (hbegins : Begins p s) (hfits : p.utf8ByteSize ≤ max)
    (hnext : ∀ c, Begins (p.push c) s → max < p.utf8ByteSize + c.utf8Size) :
    LongestWithin s max p := by
  refine ⟨hbegins, hfits, fun q hq hqmax => ?_⟩
  rcases List.prefix_or_prefix_of_prefix hq hbegins with hqp | hpq
  · exact hqp
  · by_cases hne : p = q
    · subst hne
      exact List.prefix_rfl
    · obtain ⟨c, hc⟩ := Begins.exists_longer hpq hne
      have hlt := hnext c (hc.trans hq)
      have hbytes := hc.bytes_le
      rw [String.utf8ByteSize_push] at hbytes
      omega

end LongestWithin

/-! ## Byte positions -/

theorem isValid_iff {s : String} {i : Nat} :
    String.Pos.Raw.IsValid s ⟨i⟩ ↔ ∃ p, Begins p s ∧ p.utf8ByteSize = i := by
  rw [String.Pos.Raw.isValid_iff_exists_append]
  constructor
  · rintro ⟨p, rest, hs, hi⟩
    exact ⟨p, begins_iff.mpr ⟨rest, hs⟩, (congrArg String.Pos.Raw.byteIdx hi).symm⟩
  · rintro ⟨p, hp, rfl⟩
    obtain ⟨rest, hs⟩ := begins_iff.mp hp
    exact ⟨p, rest, hs, rfl⟩

theorem upTo?_eq_some {s p : String} (h : Begins p s) : upTo? s p.utf8ByteSize = some p := by
  have hvalid : String.Pos.Raw.IsValid s ⟨p.utf8ByteSize⟩ := isValid_iff.mpr ⟨p, h, rfl⟩
  obtain ⟨rest, hs⟩ := begins_iff.mp h
  have hsplits : (s.pos ⟨p.utf8ByteSize⟩ hvalid).Splits p rest := ⟨hs, rfl⟩
  rw [upTo?, dif_pos hvalid, hsplits.copy_sliceTo_eq]

theorem backOff_le (s : String) (i : Nat) : backOff s i ≤ i := by
  induction i with
  | zero => exact Nat.le_refl 0
  | succ i ih =>
      rw [backOff]
      split
      · exact Nat.le_refl _
      · exact Nat.le_succ_of_le ih

theorem isValid_backOff (s : String) (i : Nat) : String.Pos.Raw.IsValid s ⟨backOff s i⟩ := by
  induction i with
  | zero => exact isValid_iff.mpr ⟨"", List.nil_prefix, rfl⟩
  | succ i ih =>
      rw [backOff]
      split
      · next h => exact String.Pos.Raw.isValid_eq_true_iff.mp h
      · exact ih

/-- No end of a character is passed over. -/
theorem le_backOff {s : String} {i j : Nat} (hj : String.Pos.Raw.IsValid s ⟨j⟩) (hji : j ≤ i) :
    j ≤ backOff s i := by
  induction i with
  | zero => exact hji
  | succ i ih =>
      rw [backOff]
      split
      · exact hji
      · next h =>
          refine ih (Nat.le_of_lt_succ (Nat.lt_of_le_of_ne hji fun heq => h ?_))
          subst heq
          exact String.Pos.Raw.isValid_eq_true_iff.mpr hj

/-- Going back ends at the longest beginning that fits. -/
theorem upTo?_backOff (s : String) (max : Nat) :
    ∃ p, upTo? s (backOff s max) = some p ∧ LongestWithin s max p := by
  obtain ⟨p, hp, hbytes⟩ := isValid_iff.mp (isValid_backOff s max)
  refine ⟨p, ?_, hp, ?_, fun q hq hqmax => ?_⟩
  · rw [← hbytes]
    exact upTo?_eq_some hp
  · rw [hbytes]
    exact backOff_le s max
  · have hq' : q.utf8ByteSize ≤ backOff s max := le_backOff (isValid_iff.mpr ⟨q, hq, rfl⟩) hqmax
    exact hq.of_bytes_le hp (hbytes ▸ hq')

end Text

/-! ## Characters that fit -/

open Text

theorem bytes_ofList_cons (c : Char) (cs : List Char) :
    (String.ofList (c :: cs)).utf8ByteSize = c.utf8Size + (String.ofList cs).utf8ByteSize := by
  rw [String.ofList_cons, String.utf8ByteSize_append, String.utf8ByteSize_singleton]

theorem takeBytes_prefix (max : Nat) (cs : List Char) : takeBytes max cs <+: cs := by
  fun_induction takeBytes max cs with
  | case1 => exact List.prefix_rfl
  | case2 max c cs _ ih => exact (List.prefix_cons_inj c).mpr ih
  | case3 => exact List.nil_prefix

theorem bytes_takeBytes_le (max : Nat) (cs : List Char) :
    (String.ofList (takeBytes max cs)).utf8ByteSize ≤ max := by
  fun_induction takeBytes max cs with
  | case1 => exact Nat.zero_le _
  | case2 max c cs hc ih =>
      rw [bytes_ofList_cons]
      omega
  | case3 => exact Nat.zero_le _

theorem next_takeBytes {max : Nat} {cs : List Char} {c : Char}
    (h : takeBytes max cs ++ [c] <+: cs) :
    max < (String.ofList (takeBytes max cs)).utf8ByteSize + c.utf8Size := by
  fun_induction takeBytes max cs with
  | case1 => exact absurd h.length_le (by simp)
  | case2 max d cs hd ih =>
      have hlt := ih ((List.prefix_cons_inj d).mp h)
      rw [bytes_ofList_cons]
      omega
  | case3 max d cs hd =>
      obtain rfl : c = d := (List.cons_prefix_cons.mp h).1
      omega

theorem longestWithin_takeBytes (s : String) (max : Nat) :
    LongestWithin s max (String.ofList (takeBytes max s.toList)) := by
  refine .of_next ?_ (bytes_takeBytes_le max s.toList) fun c hc => next_takeBytes ?_
  · rw [Begins, String.toList_ofList]
    exact takeBytes_prefix max s.toList
  · rw [Begins, String.toList_push, String.toList_ofList] at hc
    exact hc

/-! ## Cut statements -/

theorem truncate_of_le {s : String} {n : Nat} (h : s.utf8ByteSize ≤ n) :
    truncate s (some n) = s := by
  simp only [truncate, if_neg (Nat.not_lt.mpr h)]

theorem truncate_of_lt {s : String} {n : Nat} (h : n < s.utf8ByteSize) :
    truncate s (some n) = String.ofList (takeBytes n s.toList) ++ "..." := by
  simp only [truncate, if_pos h]

theorem truncateBytes?_eq (s : String) (max : Option Nat) :
    truncateBytes? s max = some (truncate s max) := by
  cases max with
  | none => rfl
  | some n =>
      by_cases h : n < s.utf8ByteSize
      · obtain ⟨p, hp, hlongest⟩ := upTo?_backOff s n
        obtain rfl := hlongest.unique (longestWithin_takeBytes s n)
        simp only [truncateBytes?, if_pos h, hp, truncate_of_lt h, Option.map_some]
      · simp only [truncateBytes?, if_neg h, truncate_of_le (Nat.not_lt.mp h)]

/-- A statement is cut to the longest beginning that fits, of whole characters, and by at most three
bytes more than it must. Going back byte by byte comes to the same, and never cuts through a
character. -/
theorem truncate_longest (s : String) :
    (∀ max, truncateBytes? s max = some (truncate s max)) ∧
    truncate s none = s ∧
    ∀ n, (s.utf8ByteSize ≤ n → truncate s (some n) = s) ∧
      (n < s.utf8ByteSize → ∃ p, truncate s (some n) = p ++ "..." ∧
        upTo? s (backOff s n) = some p ∧ LongestWithin s n p ∧ n ≤ p.utf8ByteSize + 3) := by
  refine ⟨truncateBytes?_eq s, rfl, fun n => ⟨truncate_of_le, fun h => ?_⟩⟩
  obtain ⟨p, hp, hlongest⟩ := upTo?_backOff s n
  refine ⟨p, ?_, hp, hlongest, Nat.le_of_lt_succ (hlongest.max_lt h)⟩
  rw [truncate_of_lt h, hlongest.unique (longestWithin_takeBytes s n)]

/-- The second character takes two bytes, of which only one would fit. -/
example : truncate "aé" (some 2) = "a..." := by
  decide

end SqlCompose
