/-
  Reading from the front of a list.

  A reader gives back a value together with what is left of its input.  A `Step` takes something, so
  what is left is strictly less, which is why the loops over tokens, elements and members end; a
  `Part` may also take nothing.
-/

namespace SyntheticTables

/-! ## Steps -/

/-- A value read from the front of a list, and what is left, which is strictly less.  The proof
    travels with the value, so a loop over steps ends by its type. -/
structure Step {τ : Type} (α : Type) (input : List τ) where
  value : α
  rest : List τ
  shorter : rest.length < input.length

namespace Step

variable {τ α β : Type} {input : List τ}

/-- The same step seen from a longer list, in which the list it was read from comes last. -/
def within (s : Step α input) (longer : List τ) (h : input.length ≤ longer.length) :
    Step α longer :=
  ⟨s.value, s.rest, Nat.lt_of_lt_of_le s.shorter h⟩

/-- The same step with something made of its value. -/
def map (f : α → β) (s : Step α input) : Step β input := ⟨f s.value, s.rest, s.shorter⟩

/-- Takes one element for a value, and nothing behind it. -/
def one (a : α) (t : τ) (rest : List τ) : Step α (t :: rest) := ⟨a, rest, Nat.lt_succ_self _⟩

/-- Takes one element and so many of those behind it for a value. -/
def oneAnd (n : Nat) (a : α) (t : τ) (rest : List τ) : Step α (t :: rest) :=
  ⟨a, rest.drop n, Nat.lt_succ_of_le (List.drop_suffix n rest).length_le⟩

/-- Takes a given element, if it is the first one. -/
def element? [DecidableEq τ] (t : τ) : (input : List τ) → Option (Step Unit input)
  | [] => none
  | a :: rest => if a = t then some (one () a rest) else none

/-- The same step behind one more element. -/
def after (t : τ) (s : Step α input) : Step α (t :: input) :=
  ⟨s.value, s.rest, Nat.lt_succ_of_lt s.shorter⟩

/-- A step behind another, on what the first one left; the value is that of the second. -/
def andThen (s : Step α input) (t : Step β s.rest) : Step β input :=
  t.within input (Nat.le_of_lt s.shorter)

end Step

/-! ## Parts -/

/-- A value read from the front of a list, possibly from nothing, and what is left.  Parts may be
    repeated only together with steps. -/
structure Part {τ : Type} (α : Type) (input : List τ) where
  value : α
  rest : List τ
  noLonger : rest.length ≤ input.length

namespace Part

variable {τ α β : Type} {input : List τ}

/-- A value that takes nothing: all of the input is left. -/
def ofNothing (input : List τ) (a : α) : Part α input := ⟨a, input, Nat.le_refl _⟩

/-- The same part with something made of its value. -/
def map (f : α → β) (p : Part α input) : Part β input := ⟨f p.value, p.rest, p.noLonger⟩

/-- The same part seen from a longer list. -/
def within (p : Part α input) (longer : List τ) (h : input.length ≤ longer.length) :
    Part α longer :=
  ⟨p.value, p.rest, Nat.le_trans p.noLonger h⟩

/-- The same part behind one more element. -/
def after (t : τ) (p : Part α input) : Part α (t :: input) :=
  ⟨p.value, p.rest, Nat.le_succ_of_le p.noLonger⟩

/-- A part behind another, on what the first one left; the value is that of the second. -/
def andThen (p : Part α input) (q : Part β p.rest) : Part β input :=
  q.within input p.noLonger

/-- A step behind a part: together they take something, however little the part took. -/
def step (p : Part α input) (s : Step β p.rest) : Step β input := s.within input p.noLonger

/-- A part behind a first element is a step, because the element is gone in any case. -/
def behind {t : τ} (p : Part α input) : Step α (t :: input) :=
  ⟨p.value, p.rest, Nat.lt_succ_of_le p.noLonger⟩

end Part

namespace Step

variable {τ α β : Type} {input : List τ}

/-- A step is a part; that it took something is forgotten. -/
def part (s : Step α input) : Part α input := ⟨s.value, s.rest, Nat.le_of_lt s.shorter⟩

/-- A part behind a step: together they take something, since the step did. -/
def followedBy (s : Step α input) (p : Part β s.rest) : Step β input :=
  ⟨p.value, p.rest, Nat.lt_of_le_of_lt p.noLonger s.shorter⟩

end Step

/-- The longest front of a list whose elements all have a property. -/
def Part.takeWhile {τ : Type} (p : τ → Bool) (input : List τ) : Part (List τ) input :=
  ⟨input.takeWhile p, input.dropWhile p, (List.dropWhile_suffix p).length_le⟩

end SyntheticTables
