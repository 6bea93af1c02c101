/-
  Checks in a row.

  A check that goes on after its first part succeeds exactly when each part does.  The lemmas read a
  sequence of checks as a conjunction, one part after the other.  A run that also changes a state goes
  through the state that its first part leaves.
-/

namespace SyntheticTables

variable {ε ε' α β : Type}

/-- A thrown error is the result `.error e` itself; stated so that `rw` can open a check that ends
    in `throw`. -/
theorem throw_eq_error (e : ε) : (throw e : Except ε α) = .error e := rfl

/-- A check that returns a value at once succeeds with that value and with no other. -/
theorem pure_eq_ok_iff {a b : α} : (pure a : Except ε α) = .ok b ↔ a = b :=
  ⟨fun h => Except.ok.inj h, congrArg Except.ok⟩

/-- After a part that succeeded, what remains is the rest of the check, applied to its result. -/
theorem ok_bind (a : α) (f : α → Except ε β) : (Except.ok a >>= f) = f a := rfl

/-- A sequence of two checks succeeds exactly when the first one does and the second one does
    with what the first one gave.  Every reading of a whole check below is this lemma, part after
    part. -/
theorem bind_eq_ok_iff {x : Except ε α} {f : α → Except ε β} {b : β} :
    x >>= f = .ok b ↔ ∃ a, x = .ok a ∧ f a = .ok b := by
  cases x with
  | error e => exact iff_of_false nofun fun ⟨_, h, _⟩ => nomatch h
  | ok a => exact ⟨fun h => ⟨a, rfl, h⟩, fun ⟨_, h, h'⟩ => Except.ok.inj h ▸ h'⟩

/-- `bind_eq_ok_iff` for a first part that only checks: nothing is passed on, so the sequence is a
    conjunction. -/
theorem seq_eq_ok_iff {x : Except ε Unit} {f : Unit → Except ε α} {a : α} :
    x >>= f = .ok a ↔ x = .ok () ∧ f () = .ok a := by
  cases x with
  | error e => exact iff_of_false nofun fun h => nomatch h.1
  | ok u => exact (and_iff_right rfl).symm

/-- A sequence fails either in its first part or, once that has succeeded, in the second one; the
    error is that of the part that failed. -/
theorem bind_eq_error_iff {x : Except ε α} {f : α → Except ε β} {e : ε} :
    x >>= f = .error e ↔ x = .error e ∨ ∃ a, x = .ok a ∧ f a = .error e := by
  cases x with
  | error e' =>
    constructor
    · intro h
      exact Or.inl (congrArg Except.error (Except.error.inj h))
    · rintro (h | ⟨_, h, _⟩)
      · exact congrArg Except.error (Except.error.inj h)
      · cases h
  | ok a =>
    constructor
    · intro h
      exact Or.inr ⟨a, rfl, h⟩
    · rintro (h | ⟨_, h, h'⟩)
      · cases h
      · cases h
        exact h'

/-- What is made of a result is there exactly when the result is. -/
theorem map_eq_ok_iff {x : Except ε α} {f : α → β} {b : β} :
    x.map f = .ok b ↔ ∃ a, x = .ok a ∧ f a = b := by
  cases x with
  | error e => exact iff_of_false nofun fun ⟨_, h, _⟩ => nomatch h
  | ok a =>
    constructor
    · intro h
      exact ⟨a, rfl, Except.ok.inj h⟩
    · rintro ⟨_, h, rfl⟩
      cases h
      rfl

/-- The Boolean reading of success, as the statement that there is a result. -/
theorem isOk_iff {x : Except ε α} : x.isOk = true ↔ ∃ a, x = .ok a := by
  cases x with
  | error e => exact iff_of_false nofun nofun
  | ok a => exact iff_of_true rfl ⟨a, rfl⟩

/-- What is made of a result depends on the result alone: two checks with the same results may still
    fail with different errors. -/
theorem map_eq_ok_congr {x y : Except ε α} {f : α → β} {b : β}
    (h : ∀ a, x = .ok a ↔ y = .ok a) : x.map f = .ok b ↔ y.map f = .ok b := by
  simp only [map_eq_ok_iff, h]

/-- Saying where an error occurred does not change when a check succeeds, nor what it gives. -/
theorem mapError_eq_ok_iff {g : ε → ε'} {x : Except ε α} {a : α} :
    x.mapError g = .ok a ↔ x = .ok a := by
  cases x with
  | error e => exact iff_of_false nofun nofun
  | ok b => exact pure_eq_ok_iff.trans pure_eq_ok_iff.symm

/-- An error that says where it occurred goes back to a cause, and to one only through `g`. -/
theorem mapError_eq_error_iff {g : ε → ε'} {x : Except ε α} {e : ε'} :
    x.mapError g = .error e ↔ ∃ cause, x = .error cause ∧ e = g cause := by
  cases x with
  | error cause => exact ⟨fun h => ⟨cause, rfl, (Except.error.inj h).symm⟩,
      fun ⟨_, h, he⟩ => by cases h; rw [he]; rfl⟩
  | ok a => exact iff_of_false nofun fun ⟨_, h, _⟩ => nomatch h

section Refusals

variable {c : Prop} [Decidable c] {e : ε}

/-- A check that may refuse before it goes on: it succeeds when the condition to refuse fails and
    the rest succeeds.  This is the form in which `do` notation leaves an early `throw`. -/
theorem refuse_seq_eq_ok_iff {f : Unit → Except ε α} {x : Except ε α} {a : α} :
    (if c then (.error e : Except ε Unit) >>= f else x) = .ok a ↔ ¬ c ∧ x = .ok a := by
  by_cases h : c
  · rw [if_pos h]
    exact iff_of_false nofun fun hc => hc.1 h
  · rw [if_neg h]
    exact (and_iff_right h).symm

/-- A check that may refuse at its end, where nothing is left to go on with. -/
theorem refuse_eq_ok_iff {x : Except ε α} {a : α} :
    (if c then .error e else x) = .ok a ↔ ¬ c ∧ x = .ok a := by
  by_cases h : c
  · rw [if_pos h]
    exact iff_of_false nofun fun hc => hc.1 h
  · rw [if_neg h]
    exact (and_iff_right h).symm

end Refusals

section Runs

variable {σ : Type} {m : ExceptT ε (StateM σ) α}

/-- A run that goes on after its first part succeeds through a state in between: the one that the
    first part leaves is the one that the second part begins with. -/
theorem run_bind_eq_ok_iff {f : α → ExceptT ε (StateM σ) β} {s s'' : σ} {b : β} :
    (m >>= f) s = (.ok b, s'') ↔ ∃ a s', m s = (.ok a, s') ∧ f a s' = (.ok b, s'') := by
  have hbind : (m >>= f) s = ExceptT.bindCont f (m s).1 (m s).2 := rfl
  rw [hbind]
  constructor
  · intro h
    rcases hm : m s with ⟨_ | a, s'⟩
    · rw [hm] at h
      cases h
    · rw [hm] at h
      exact ⟨a, s', rfl, h⟩
  · rintro ⟨a, s', hm, hf⟩
    rw [hm]
    exact hf

/-- Wrapping the errors of a run changes neither its results nor the state that it leaves. -/
theorem run_adapt_eq_ok_iff {f : ε → ε'} {s s' : σ} {a : α} :
    (m.adapt f) s = (.ok a, s') ↔ m s = (.ok a, s') := by
  have hadapt : (m.adapt f) s = ((m s).1.mapError f, (m s).2) := rfl
  rw [hadapt]
  rcases m s with ⟨_ | b, t⟩
  · exact ⟨nofun, nofun⟩
  · constructor
    · intro h
      cases h
      rfl
    · intro h
      cases h
      rfl

end Runs

end SyntheticTables
