/-
  Uniqueness in the run does not nest.

  A value that is accepted as new in the run has its key in the ledger from then on, whoever accepted
  it (`mem_ledger_of_uniqueInRun`).  A search for a new value among values that were accepted before
  therefore rejects every one of them: it draws as often as it may and gives up (`Draw.inVain`,
  `retry_claimed`).  So a `unique` node around another never gives a value, and neither does a meta
  group whose group name is a `unique` node, because the group looks for a new name itself.
-/
import SyntheticTables.Proofs.Run

namespace SyntheticTables

namespace Draw

variable {α β γ : Type}

/-! ## Draws in vain -/

/-- Draws a number of values, drops them, and fails. -/
def inVain (attempts : Nat) (draw : Draw α) (e : GenError) : Draw β := do
  let _ ← Draw.times attempts draw
  throw e

/-- Drawing once more in vain is to draw one value, whatever it is, and then the others in vain. -/
theorem inVain_succ (n : Nat) (m : Draw α) (e : GenError) :
    (inVain (n + 1) m e : Draw β) = m >>= fun _ => inVain n m e := by
  unfold inVain
  rw [times_succ, bind_assoc]
  -- the values are dropped in the end, so the first one does not matter among them
  refine congrArg (m >>= ·) (funext fun a => ?_)
  rw [bind_map_left]

/-- Nothing comes after a failure. -/
theorem inVain_bind (n : Nat) (m : Draw α) (e : GenError) (f : β → Draw γ) :
    (inVain n m e >>= f) = inVain n m e := by
  unfold inVain
  rw [bind_assoc]
  rfl

/-- A draw in vain gives no value in any state. -/
theorem inVain_ne_ok {n : Nat} {m : Draw α} {e : GenError} {s s' : State} {b : β} :
    (inVain n m e : Draw β) s ≠ (.ok b, s') := by
  intro h
  obtain ⟨_, _, _, hthrow⟩ := bind_eq_ok.mp h
  cases hthrow

/-- The first failure on the way is the failure of the whole: the draws after it are not made. -/
theorem inVain_of_error {n : Nat} {m : Draw α} {e e' : GenError} {s s' : State} (hn : 0 < n)
    (hm : m s = (.error e', s')) : (inVain n m e : Draw β) s = (.error e', s') := by
  obtain ⟨k, rfl⟩ : ∃ k, n = k + 1 := ⟨n - 1, by omega⟩
  rw [inVain_succ, bind_apply, hm]

end Draw

/-! ## Keys that are claimed already -/

namespace Context

open Draw

variable {α : Type} {key : α → String} {m : Draw α}

/-- The search ends with a value whose key it has just claimed.  By induction on the tries: a try
    whose key is claimed leaves the ledger as it is and the search to the next one. -/
theorem mem_ledger_of_retry {exhausted : GenError} {a : α} {s' : State} : ∀ {n : Nat} {s : State},
    Draw.retry exhausted (fun a => do return if ← Draw.claim (key a) then some a else none) m n s
      = (.ok a, s') → key a ∈ s'.ledger
  | 0, _, h => by cases h
  | n + 1, s, h => by
    obtain ⟨b, s₁, hm, hrest⟩ := bind_eq_ok.mp h
    by_cases hkey : key b ∈ s₁.ledger
    · have hclaim : Draw.claim (key b) s₁ = (.ok false, s₁) := by simp [Draw.claim, hkey]
      simp only [bind_apply, hclaim] at hrest
      exact mem_ledger_of_retry hrest
    · have hclaim : Draw.claim (key b) s₁
          = (.ok true, { s₁ with ledger := s₁.ledger.insert (key b) }) := by
        simp [Draw.claim, hkey]
      simp only [bind_apply, hclaim] at hrest
      cases hrest
      exact State.mem_insert_ledger.mpr (.inl rfl)

/-- What was accepted as new in the run is claimed. -/
theorem mem_ledger_of_uniqueInRun {c : Context} {s s' : State} {a : α}
    (h : c.uniqueInRun key m s = (.ok a, s')) : key a ∈ s'.ledger := by
  obtain ⟨found, hsearch, rfl⟩ := uniqueInRun_eq_ok h
  have hkey : key a ∈ found.ledger := mem_ledger_of_retry hsearch
  exact hkey

/-- A search among values whose keys are claimed rejects each of them.  By induction on the tries:
    the draw of each may end in any state, but its key is claimed in that one. -/
theorem retry_claimed (h : ∀ s a s', m s = (.ok a, s') → key a ∈ s'.ledger) (exhausted : GenError)
    (n : Nat) :
    Draw.retry exhausted (fun a => do return if ← Draw.claim (key a) then some a else none) m n
      = inVain n m exhausted := by
  induction n with
  | zero => rfl
  | succ n ih =>
    rw [inVain_succ]
    funext s
    unfold Draw.retry
    rw [bind_apply, bind_apply]
    rcases hm : m s with ⟨e | a, s'⟩
    · rfl
    · have hclaim : Draw.claim (key a) s' = (.ok false, s') := by
        simp [Draw.claim, h s a s' hm]
      simp only [bind_apply, hclaim]
      exact congrFun ih s'

/-- Looking for something new in the run among what was accepted as new in the run is in vain. -/
theorem uniqueInRun_claimed (c : Context) (h : ∀ s a s', m s = (.ok a, s') → key a ∈ s'.ledger) :
    c.uniqueInRun key m = inVain c.attempts.toNat m (.uniquenessExhausted .run c.attempts) := by
  unfold uniqueInRun
  rw [retry_claimed h]
  exact inVain_bind _ _ _ _

end Context

/-! ## Nested nodes -/

namespace Node

open Draw Context

variable (c : Context) (missing : Draw String) (place : Place)

/-- The outer of two `unique` nodes finds each value of the inner one claimed, by the inner one. -/
theorem unique_unique_draw (n : Node) :
    (Node.unique (.unique n)).draw c missing place
      = inVain c.attempts.toNat ((Node.unique n).draw c missing (0 :: place))
        (.uniquenessExhausted .run c.attempts) := by
  rw [Node.draw]
  apply uniqueInRun_claimed
  intro s v s' h
  rw [Node.draw] at h
  exact mem_ledger_of_uniqueInRun h

/-- The key of a text is the key of the value it was taken from, so the group finds it claimed: by
    the inner node, a moment before.  The search for a group name is in vain, and nothing behind it
    is drawn. -/
theorem metaGroup_unique_draw (n : Node) (count : IntRange) (fieldName title description : Node)
    (undefinedProb : Float) :
    (Node.metaGroup (.unique n) count fieldName title description undefinedProb).draw c missing place
      = inVain c.attempts.toNat
        (((Node.unique n).draw c missing (0 :: place)).as Value.toText)
        (.uniquenessExhausted .run c.attempts) := by
  have hclaimed : ∀ s t s', ((Node.unique n).draw c missing (0 :: place)).as Value.toText s
      = (.ok t, s') → textKey t ∈ s'.ledger := by
    intro s t s' h
    obtain ⟨v, s₁, hv, htext⟩ := bind_eq_ok.mp h
    rw [Node.draw] at hv
    have hkey := mem_ledger_of_uniqueInRun hv
    -- only a text has a form as a name, and its key is the text's own
    cases v with
    | text t' =>
      cases htext
      exact hkey
    | _ => cases htext
  -- the inner node is not to be opened along with the group
  generalize Node.unique n = group at hclaimed ⊢
  rw [Node.draw]
  unfold Context.metaGroup
  rw [uniqueInRun_claimed c hclaimed, inVain_bind, inVain_bind]

/-- A `unique` node around another draws what the inner node draws, as often as a search may try, and
    gives up; a meta group whose group name is a `unique` node does the same with its name.  Neither
    ever gives a value.  Only where the inner node fails itself do they end as it does, with its
    error and in its state. -/
theorem nested_unique_in_vain (hattempts : 0 < c.attempts) (n : Node) (count : IntRange)
    (fieldName title description : Node) (undefinedProb : Float) :
    let inner := (Node.unique n).draw c missing (0 :: place)
    let nested := (Node.unique (.unique n)).draw c missing place
    let group := (Node.metaGroup (.unique n) count fieldName title description undefinedProb).draw c
      missing place
    let exhausted := GenError.uniquenessExhausted .run c.attempts
    nested = inVain c.attempts.toNat inner exhausted ∧
      group = inVain c.attempts.toNat (inner.as Value.toText) exhausted ∧
      (∀ s e s', inner s = (.error e, s') →
        nested s = (.error e, s') ∧ group s = (.error e, s')) ∧
      ∀ s v s', nested s ≠ (.ok v, s') ∧ group s ≠ (.ok v, s') := by
  intro inner nested group exhausted
  -- both come to the same search in vain, once for values and once for texts
  have hnested : nested = inVain c.attempts.toNat inner exhausted :=
    unique_unique_draw c missing place n
  have hgroup : group = inVain c.attempts.toNat (inner.as Value.toText) exhausted :=
    metaGroup_unique_draw c missing place n count fieldName title description undefinedProb
  have hpos : 0 < c.attempts.toNat := UInt32.lt_iff_toNat_lt.mp hattempts
  refine ⟨hnested, hgroup, ?_, ?_⟩
  · intro s e s' hinner
    have htext : inner.as Value.toText s = (.error e, s') := by
      unfold Draw.as
      rw [bind_apply, hinner]
    rw [hnested, hgroup]
    exact ⟨inVain_of_error hpos hinner, inVain_of_error hpos htext⟩
  · intro s v s'
    rw [hnested, hgroup]
    exact ⟨inVain_ne_ok, inVain_ne_ok⟩

/-- A context with one word and the usual number of attempts. -/
def oneWord : Context := ⟨"en_US", #["word"], by decide, 1000, 0.5⟩

/-- With the one word `word` and 1000 attempts, an integer from 1 to 6 that is to be new twice over
    is never drawn, from whatever state. -/
theorem nested_unique_in_vain_integer :
    0 < oneWord.attempts ∧ ∀ s v s',
      (Node.unique (.unique (.integer 1 6))).draw oneWord (oneWord.missingName .spss) [1] s
        ≠ (.ok v, s') := by
  have hattempts : 0 < oneWord.attempts := by decide
  refine ⟨hattempts, fun s v s' => ?_⟩
  have h := nested_unique_in_vain oneWord (oneWord.missingName .spss) [1] hattempts (.integer 1 6)
    ⟨1, 1⟩ .word .word .word 0.5
  exact (h.2.2.2 s v s').1

/-- In a fresh run from seed 0, an integer from 1 to 6 is found to be new, and yet a `unique` node
    around the one that finds it finds none; the check accepts that node. -/
theorem unique_unique_ne_unique :
    let run : Run := ⟨oneWord, .style .spss⟩
    (Node.unique (.unique (.integer 1 6))).check = .ok () ∧
      (run.draw 0 (.unique (.integer 1 6)) (.ofSeed 0)).1.isOk = true ∧
      (run.draw 0 (.unique (.unique (.integer 1 6))) (.ofSeed 0)).1.isOk = false := by
  intro run
  refine ⟨rfl, by decide +kernel, ?_⟩
  cases hresult : run.draw 0 (.unique (.unique (.integer 1 6))) (.ofSeed 0) with
  | mk result s' =>
    cases result with
    | error e => rfl
    | ok v =>
      have hdraw := unique_unique_draw oneWord run.defaultMissing (Run.rootPlace 0) (.integer 1 6)
      exact absurd ((congrFun hdraw _).symm.trans hresult) inVain_ne_ok

end Node

end SyntheticTables
