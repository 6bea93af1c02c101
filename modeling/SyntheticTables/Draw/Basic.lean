/-
  Drawing values.

  A draw goes from one state of a run to the next and gives a value or an error; the state moves on in
  both cases.  The state holds the random stream and what uniqueness is decided by: the ledger, which
  the whole run shares, and the memory, which keeps a set of its own for each place that asks for
  values it has not seen.  Both only ever grow.  Beside them stands a record of what was handed out
  as unique in the run; it is written and never read.
-/
import SyntheticTables.Draw.Convert
import SyntheticTables.Random.Sample
import Std.Data.TreeMap.Basic
import Std.Data.TreeSet.Basic

namespace SyntheticTables

/-! ## States -/

/-- A place in a configuration tree, the last step first. -/
abbrev Place := List Nat

structure State where
  stream : Stream
  /-- The keys claimed in the run. -/
  ledger : Std.TreeSet String
  /-- The keys seen at each place. -/
  memory : Std.TreeMap Place (Std.TreeSet String)
  /-- The keys of the values that were handed out as unique in the run, the last one first. -/
  issued : List String

namespace State

/-- The state a run begins with. -/
def ofSeed (seed : UInt64) : State := ⟨.ofSeed seed, ∅, ∅, []⟩

/-- The keys seen at a place. -/
def seenAt (s : State) (place : Place) : Std.TreeSet String := s.memory.getD place ∅

end State

/-- A draw of a value. -/
abbrev Draw (α : Type) := ExceptT GenError (StateM State) α

/-- What the draws of a run depend on and do not change. -/
structure Context where
  locale : String
  vocabulary : Array String
  nonempty : 0 < vocabulary.size
  attempts : UInt32
  optionalProbability : Float

namespace Draw

/-! ## Steps -/

/-- Takes something from the stream. -/
def sample {α : Type} (f : Stream → α × Stream) : Draw α :=
  fun s => let (a, stream) := f s.stream; (.ok a, { s with stream })

/-- Gives a result that is already known. -/
def ofExcept {α : Type} (r : Except GenError α) : Draw α := fun s => (r, s)

/-- Enters a key into the ledger; false when it was there. -/
def claim (key : String) : Draw Bool := fun s =>
  if s.ledger.contains key then (.ok false, s)
  else (.ok true, { s with ledger := s.ledger.insert key })

/-- Enters a key into the memory of a place; false when it was there. -/
def remember (place : Place) (key : String) : Draw Bool := fun s =>
  if (s.seenAt place).contains key then (.ok false, s)
  else (.ok true, { s with memory := s.memory.insert place ((s.seenAt place).insert key) })

/-- Enters a key into the record of what was handed out. -/
def issue (key : String) : Draw Unit := fun s => (.ok (), { s with issued := key :: s.issued })

/-! ## Repetition -/

/-- Draws again and again until a value is accepted, at most `attempts` times. -/
def retry {α β : Type} (exhausted : GenError) (accept : α → Draw (Option β)) (draw : Draw α) :
    (attempts : Nat) → Draw β
  | 0 => throw exhausted
  | n + 1 => do
    match ← accept (← draw) with
    | some b => pure b
    | none => retry exhausted accept draw n

/-- Draws a number of values; `drawn` holds those before, the last one first. -/
def timesOnto {α : Type} (draw : Draw α) (drawn : List α) : (count : Nat) → Draw (List α)
  | 0 => pure drawn.reverse
  | n + 1 => do
    let a ← draw
    timesOnto draw (a :: drawn) n

/-- Draws a number of values, one after the other. -/
def times {α : Type} (count : Nat) (draw : Draw α) : Draw (List α) := timesOnto draw [] count

/-! ## Simple draws -/

/-- True with the given probability. -/
def chance (p : Float) : Draw Bool := sample (Sample.chance p)

/-- An integer between two others, whichever is the smaller. -/
def int (a b : Int64) : Draw Int64 :=
  if h : a ≤ b then sample (Sample.int64 a b h)
  else sample (Sample.int64 b a (Int64.le_of_lt (Int64.not_le.mp h)))

/-- A float between two others, whichever is the smaller. -/
def float (a b : Float) : Draw Float :=
  if a ≤ b then sample (Sample.float a b) else sample (Sample.float b a)

/-- A size: a range that holds one number only takes nothing from the stream. -/
def size (s : SizeSpec) : Draw Nat :=
  if s.min = s.max then pure s.min.toNat
  else if h : s.min ≤ s.max then UInt64.toNat <$> sample (Sample.uint64 s.min s.max h)
  else UInt64.toNat <$> sample (Sample.uint64 s.max s.min (UInt64.le_of_lt (UInt64.not_le.mp h)))

/-- The sum, or the nearest end of the range when it lies outside. -/
def saturatingAdd (a b : Int64) : Int64 :=
  let sum := a.toInt + b.toInt
  if Int64.maxValue.toInt < sum then Int64.maxValue
  else if sum < Int64.minValue.toInt then Int64.minValue
  else Int64.ofInt sum

/-- A start and an end, a drawn length apart. -/
def interval (start length : IntRange) : Draw (Int64 × Int64) := do
  let first ← int start.min start.max
  let n ← int length.min length.max
  -- the sum is cut off at the greatest integer, so the interval may be shorter than was drawn
  return (first, saturatingAdd first n)

/-- The child with the given probability, else nothing. -/
def maybe {α : Type} (p : Float) (child : Draw α) : Draw (Option α) := do
  if ← chance p then return some (← child) else return none

end Draw

namespace Context

/-- A word of the vocabulary. -/
def word (c : Context) : Draw String := do
  let i ← Draw.sample (Sample.index c.vocabulary.size c.nonempty)
  return c.vocabulary.getD i ""

/-- Several words, joined. -/
def words (c : Context) (joiner : Joiner) (count : Nat) : Draw String := do
  return joiner.join (← Draw.times count c.word)

/-- A token for a missing value. -/
def missingName (c : Context) : MissingStyle → Draw String
  | .spss => do return toString (← Draw.sample (Sample.int64 (-1000) (-1) (by decide)))
  | .stata => do
    let i ← Draw.sample (Sample.index 26 (by decide))
    return "." ++ (Char.ofNat ('a'.toNat + i)).toString
  | .underscore => do
    let i ← Draw.sample (Sample.index 3 (by decide))
    return "_" ++ (← c.words .snakeCaseCaps (i + 1)) ++ "_"

/-! ## Uniqueness -/

/-- The key of a text that is no value yet, in the form the keys of values have. -/
def textKey (s : String) : String := (Json.obj [("Text", .str s)]).text

/-- A value whose key nobody in the run has claimed; its key is claimed. -/
def uniqueInRun {α : Type} (c : Context) (key : α → String) (draw : Draw α) : Draw α := do
  let a ← Draw.retry (.uniquenessExhausted .run c.attempts)
    -- a key that was claimed stays claimed, also if what asked for the value fails later
    (fun a => do return if ← Draw.claim (key a) then some a else none) draw c.attempts.toNat
  Draw.issue (key a)
  return a

/-- What a search in the run comes back with: the value it accepted, and the state in which that
    happened with the key of the value in front of the record. -/
theorem uniqueInRun_eq_ok {α : Type} {c : Context} {key : α → String} {m : Draw α} {s s' : State}
    {a : α} (h : c.uniqueInRun key m s = (.ok a, s')) :
    ∃ found, Draw.retry (.uniquenessExhausted .run c.attempts)
        (fun a => do return if ← Draw.claim (key a) then some a else none) m c.attempts.toNat s
          = (.ok a, found) ∧
      s' = { found with issued := key a :: found.issued } := by
  unfold uniqueInRun at h
  simp only [bind, ExceptT.bind, ExceptT.mk, StateT.bind] at h
  split at h
  rename_i result found hsearch
  cases result with
  | error e => cases h
  | ok b =>
    cases h
    exact ⟨found, hsearch, rfl⟩

/-- The record of what was handed out begins with the key of the value that came back last.  No other
    operation writes to it. -/
theorem head?_issued_of_uniqueInRun {α : Type} {c : Context} {key : α → String} {m : Draw α}
    {s s' : State} {a : α} (h : c.uniqueInRun key m s = (.ok a, s')) :
    s'.issued.head? = some (key a) := by
  obtain ⟨found, -, rfl⟩ := uniqueInRun_eq_ok h
  rfl

/-- A value that was not drawn at this place before. -/
def uniqueAt (c : Context) (place : Place) (draw : Draw Value) : Draw Value :=
  Draw.retry (.uniquenessExhausted .generator c.attempts)
    (fun v => do return if ← Draw.remember place v.key then some v else none) draw
    c.attempts.toNat

/-- A text whose key is not in a set, together with the set that holds it too. -/
def newText (c : Context) (seen : Std.TreeSet String) (draw : Draw String) :
    Draw (String × Std.TreeSet String) :=
  Draw.retry (.uniquenessExhausted .generator c.attempts)
    (fun s => pure (if seen.contains (textKey s) then none else some (s, seen.insert (textKey s))))
    draw c.attempts.toNat

/-- Draws texts unlike each other and unlike those whose keys are `seen`. -/
def newTextsOnto (c : Context) (draw : Draw String) (seen : Std.TreeSet String)
    (drawn : List String) : (count : Nat) → Draw (List String)
  | 0 => pure drawn.reverse
  | n + 1 => do
    let (s, seen) ← c.newText seen draw
    newTextsOnto c draw seen (s :: drawn) n

/-- A number of texts unlike each other. -/
def distinctTexts (c : Context) (count : SizeSpec) (draw : Draw String) : Draw (List String) := do
  let n ← Draw.size count
  c.newTextsOnto draw ∅ [] n

end Context

end SyntheticTables
