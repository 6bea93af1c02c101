/-
  Trees that claim nothing.

  What is new in a batch, in a sequence or in a list of texts is decided by sets of their own; only
  a `unique` node and a meta group turn to the ledger of the run.  A tree with neither in it
  (`Node.Local`) keeps to the stream and to the memory of its places, so calls on such trees leave the
  ledger as it was.  Nor do they look into it: whatever the run claimed before, they come to the same
  results, take the same words from the stream and leave the same memory.
-/
import SyntheticTables.Proofs.Draw.Footprint
import SyntheticTables.Proofs.Run

namespace SyntheticTables

open Draw

/-- All places of the memory, but not the ledger. -/
def Footprint.memoryOnly : Footprint := ⟨False, fun _ => True⟩

namespace Run

variable {r : Run} {f : Footprint}

/-! ## Calls and footprints -/

/-- What a footprint does not hold is left alone by a sequence of calls that keep to it.  By
    induction on the calls, since leaving alone is transitive. -/
theorem calls_keeps {calls : List (Nat × Node)}
    (hcalls : ∀ call ∈ calls, (r.draw call.1 call.2).Confined f) (s : State) :
    s.Keeps f (r.calls calls s).2 := by
  induction calls generalizing s with
  | nil => exact .of_eq rfl rfl rfl
  | cons call rest ih =>
    obtain ⟨hfirst, hrest⟩ := List.forall_mem_cons.mp hcalls
    rw [calls_cons]
    exact (hfirst.keeps s).trans (ih hrest _)

/-- Calls that keep to a footprint cannot tell states apart that agree on it: they come to the same
    results, in states that agree on it again, which is what the induction on the calls goes on
    with. -/
theorem calls_agrees {calls : List (Nat × Node)}
    (hcalls : ∀ call ∈ calls, (r.draw call.1 call.2).Confined f) {s t : State}
    (h : State.Agree f s t) : (r.calls calls s).1 = (r.calls calls t).1 ∧
      State.Agree f (r.calls calls s).2 (r.calls calls t).2 := by
  induction calls generalizing s t with
  | nil => exact ⟨rfl, h⟩
  | cons call rest ih =>
    obtain ⟨hfirst, hrest⟩ := List.forall_mem_cons.mp hcalls
    obtain ⟨hresult, hafter⟩ := hfirst.agrees s t h
    obtain ⟨hresults, hend⟩ := ih hrest hafter
    rw [calls_cons, calls_cons]
    exact ⟨by rw [hresult, hresults], hend⟩

/-! ## Local trees -/

/-- With a named style for missing values, a tree that claims nothing keeps off the ledger.  A tree
    of its own for missing values might claim, which is why the style has to be named. -/
theorem draw_confined_memoryOnly {style : MissingStyle} (h : r.missing = .style style)
    (number : Nat) {n : Node} (hn : n.Local) : (r.draw number n).Confined .memoryOnly := by
  have hmissing : r.defaultMissing.Confined .memoryOnly := by
    unfold defaultMissing
    rw [h]
    exact r.context.missingName_confined style
  exact Node.draw_confined hmissing n (rootPlace number) (fun _ _ => trivial) fun _ => hn

/-- Take any calls on trees without `unique` nodes and meta groups, in a run without a tree of its own
    for missing values.  Whether they fail or not, the ledger is afterwards what it was before.  From
    a state with any other ledger, the same calls have the same results, and leave that ledger, the
    stream at the same word, and the same memory at every place. -/
theorem calls_ledger_free {o : ContextOptions}
    {wordlist : String → Except VocabularyError (List String)} {r : Run}
    (hr : ofOptions o none wordlist = .ok r) (calls : List (Nat × Node))
    (hcalls : ∀ call ∈ calls, call.2.Local) (s : State) (ledger : Std.TreeSet String) :
    (r.calls calls s).2.ledger = s.ledger ∧
      let other := r.calls calls { s with ledger }
      other.1 = (r.calls calls s).1 ∧ other.2.ledger = ledger ∧
        other.2.stream = (r.calls calls s).2.stream ∧
        ∀ place, other.2.seenAt place = (r.calls calls s).2.seenAt place := by
  have hconfined : ∀ call ∈ calls, (r.draw call.1 call.2).Confined .memoryOnly := fun call hcall =>
    draw_confined_memoryOnly (ofOptions_eq_ok hr).1 call.1 (hcalls call hcall)
  have hagree : State.Agree .memoryOnly { s with ledger } s :=
    ⟨rfl, False.elim, False.elim, fun _ _ => rfl⟩
  obtain ⟨hresults, hend⟩ := calls_agrees hconfined hagree
  exact ⟨(calls_keeps hconfined s).ledger id, hresults, (calls_keeps hconfined _).ledger id,
    hend.stream, fun place => hend.memory place trivial⟩

/-- Calls that look for new values at their own places only: three throws of a die without
    repetition, thrice from the same root; a column with labelled levels and tokens for missing
    values; and a word, or nothing. -/
def localCalls : List (Nat × Node) := [
  (0, .batch (.integer 1 6) (.fixed 3) true),
  (1, .enumIntegerFieldType {} (Node.defaultName .snakeCaseCaps) Node.defaultMissingName),
  (2, .maybe none .word),
  (0, .batch (.integer 1 6) (.fixed 3) true),
  (0, .batch (.integer 1 6) (.fixed 3) true)]

/-- In a run of two words with 8 attempts, from seed 3, the third call on the die fails, because its
    place has seen all faces.  That the integers 0 to 6 are claimed in the run, and the text `word`
    as well, makes no difference to any of the calls. -/
theorem calls_ledger_free_dice :
    let s := State.ofSeed 3
    let claimed := Std.TreeSet.ofList
      ((Value.text "word").key :: (List.range 7).map fun i => (Value.int (.ofNat i)).key)
    ∃ r, ofOptions { maxUniqueAttempts := 8 } none (fun _ => .ok ["word", "name"]) = .ok r ∧
      (∀ call ∈ localCalls, call.2.Local) ∧
      (r.calls localCalls s).1.map (·.isOk) = [true, true, true, true, false] ∧
      (r.calls localCalls s).2.ledger = s.ledger ∧
      let other := r.calls localCalls { s with ledger := claimed }
      other.1 = (r.calls localCalls s).1 ∧ other.2.ledger = claimed ∧
        other.2.stream = (r.calls localCalls s).2.stream ∧
        ∀ place, other.2.seenAt place = (r.calls localCalls s).2.seenAt place := by
  intro s claimed
  obtain ⟨r, hr⟩ : ∃ r, ofOptions { maxUniqueAttempts := 8 } none
      (fun _ => .ok ["word", "name"]) = .ok r := ⟨_, rfl⟩
  have hlocal : ∀ call ∈ localCalls, call.2.Local := by
    simp [localCalls, Node.Local, Node.defaultName, Node.defaultMissingName]
  have hresults : (r.calls localCalls s).1.map (·.isOk) = [true, true, true, true, false] := by
    cases hr
    decide +kernel
  exact ⟨r, hr, hlocal, hresults, calls_ledger_free hr localCalls hlocal s claimed⟩

end Run

end SyntheticTables
