/-!
# Fresh names

Subqueries that are used as tables need names. A namer produces them, and everything that refers to
one namer draws from the same sequence. The namers of a program live in one `Naming`, and building a
statement is a computation on it.
-/

namespace SqlCompose

/-- A reference to a namer. -/
structure NamerId where
  index : Nat
  deriving DecidableEq, Repr

/-- A source of names and how far it has been used. -/
inductive Namer where
  /-- A stem followed by 1, 2, …; the count is a word of 64 bits. -/
  | counted (stem : String) (drawn : UInt64)
  /-- The names of a list over and over; an empty list gives the empty name. -/
  | cycling (names : List String) (drawn : Nat)
  /-- A stem followed by twelve scattered hexadecimal digits. -/
  | scattered (stem : String) (source : StdGen)

namespace Namer

/-- The namer of statements: `sub1`, `sub2`, … -/
def subqueries : Namer := .counted "sub" 0

/-- A namer with a stem: `t1`, `t2`, … unless another stem is given. -/
def sequential (stem : String) : Namer := .counted stem 0

/-- The stem of sequential names. -/
def sequentialStem : String := "t"

/-- The stem of scattered names. -/
def scatteredStem : String := "t_"

/-- Twelve hexadecimal digits of a number. -/
def twelveDigits (n : Nat) : String :=
  String.ofList ((List.range 12).map fun i =>
    let d := n / Nat.pow 16 (11 - i) % 16
    if d < 10 then Char.ofNat (48 + d) else Char.ofNat (87 + d))

/-- The next name, and the namer after it. -/
def next : Namer → String × Namer
  | .counted stem drawn => (stem ++ toString (drawn + 1).toNat, .counted stem (drawn + 1))
  | .cycling names drawn =>
    (if names.isEmpty then "" else names.getD (drawn % names.length) "", .cycling names (drawn + 1))
  | .scattered stem source =>
    let (n, source) := randNat source 0 (Nat.pow 16 12 - 1)
    (stem ++ twelveDigits n, .scattered stem source)

end Namer

/-- The namers of a program, found by their index. -/
structure Naming where
  namers : List Namer

namespace Naming

/-- No namers. -/
def empty : Naming := ⟨[]⟩

/-- Adds a namer that nothing else refers to. -/
def allocate (namer : Namer) : StateM Naming NamerId := fun n =>
  (⟨n.namers.length⟩, ⟨n.namers ++ [namer]⟩)

/-- Draws the next name of a namer. -/
def draw (id : NamerId) : StateM Naming String := fun n =>
  match n.namers[id.index]? with
  | some namer =>
    let (name, namer) := namer.next
    (name, ⟨n.namers.set id.index namer⟩)
  | none => ("", n)

end Naming

/-- The dump of a namer that statements share. -/
def NamerId.dump (_ : NamerId) : String := "SharedAliases"

end SqlCompose
