/-
  What a draw does, from any state of a run.

  `Meets E R m` says of a draw: from every state it either gives a value as `R` says or ends in an
  error as `E` says, and in both cases the run has moved on by a `State.Step` — the ledger keeps
  what it holds, and the keys handed out meanwhile are new to it, are in it afterwards, and are
  unlike each other.  `R` speaks of those keys, too, in the order in which they were handed out.

  The rules follow the ways draws are put together.  Each part of a package is then one lemma about
  its draw (`Proofs/Draw/Part`), and a tree is an induction over its nodes (`Proofs/Draw/Tree`).
-/
import SyntheticTables.Draw.Node
import SyntheticTables.Proofs.Checks

namespace SyntheticTables

/-! ## Steps of a run -/

/-- The run has moved on and handed out `new` on the way, the first key first. -/
structure State.Step (s : State) (new : List String) (s' : State) : Prop where
  issued : s'.issued = new.reverse ++ s.issued
  kept : ∀ k, k ∈ s.ledger → k ∈ s'.ledger
  fresh : ∀ k ∈ new, k ∉ s.ledger
  claimed : ∀ k ∈ new, k ∈ s'.ledger
  distinct : new.Nodup

namespace State.Step

/-- Whatever leaves the ledger and the record alone is a step that hands out nothing. -/
theorem of_eq {s s' : State} (hledger : s'.ledger = s.ledger) (hissued : s'.issued = s.issued) :
    s.Step [] s' where
  issued := by simp [hissued]
  kept k hk := hledger ▸ hk
  fresh := by simp
  claimed := by simp
  distinct := List.nodup_nil

/-- Two stretches of a run make one.  The keys of the second are new to a ledger that holds those of
    the first, which is why the keys of both together are still unlike each other. -/
theorem trans {s s' s'' : State} {old new : List String} (h : s.Step old s')
    (h' : s'.Step new s'') : s.Step (old ++ new) s'' where
  issued := by rw [h'.issued, h.issued, List.reverse_append, List.append_assoc]
  kept k hk := h'.kept k (h.kept k hk)
  fresh k hk := by
    rcases List.mem_append.mp hk with hk | hk
    · exact h.fresh k hk
    · exact fun hs => h'.fresh k hk (h.kept k hs)
  claimed k hk := by
    rcases List.mem_append.mp hk with hk | hk
    · exact h'.kept k (h.claimed k hk)
    · exact h'.claimed k hk
  distinct := by
    refine List.nodup_append.mpr ⟨h.distinct, h'.distinct, ?_⟩
    -- an old key was in the ledger by the time the new ones were handed out
    rintro a ha b hb rfl
    exact h'.fresh a hb (h.claimed a ha)

end State.Step

namespace Draw

variable {α β : Type} {E : GenError → Prop}

/-! ## Outcomes -/

/-- The second draw goes on where the first one stopped; after an error it does not begin. -/
theorem bind_apply (m : Draw α) (f : α → Draw β) (s : State) :
    (m >>= f) s = match m s with
      | (.ok a, s') => f a s'
      | (.error e, s') => (.error e, s') := by
  show StateT.bind m (ExceptT.bindCont f) s = _
  unfold StateT.bind
  show ExceptT.bindCont f (m s).1 (m s).2 = _
  rcases m s with ⟨_ | _, _⟩ <;> rfl

/-- A draw that goes on succeeds when both of its parts do. -/
theorem bind_eq_ok {m : Draw α} {f : α → Draw β} {s s'' : State} {b : β} :
    (m >>= f) s = (.ok b, s'') ↔ ∃ a s', m s = (.ok a, s') ∧ f a s' = (.ok b, s'') :=
  run_bind_eq_ok_iff

/-- The values so far stand before the others and have no part in drawing them. -/
theorem timesOnto_eq_map (m : Draw α) (n : Nat) (drawn : List α) :
    timesOnto m drawn n = (drawn.reverse ++ ·) <$> times n m := by
  unfold times
  induction n generalizing drawn with
  | zero => simp [timesOnto]
  | succ n ih =>
    unfold timesOnto
    rw [map_bind]
    refine congrArg (m >>= ·) (funext fun a => ?_)
    rw [ih (a :: drawn), ih [a], Functor.map_map]
    simp

/-- A draw of several values, unfolded once at its front: the first one, then the others.  The
    accumulator of `timesOnto` is gone from here on. -/
theorem times_succ (m : Draw α) (n : Nat) :
    times (n + 1) m = m >>= fun a => (a :: ·) <$> times n m := by
  show m >>= (fun a => timesOnto m [a] n) = _
  refine congrArg (m >>= ·) (funext fun a => ?_)
  rw [timesOnto_eq_map]
  rfl

/-- Values that are drawn one after the other: the first of them, and the others where it left the
    run.  Inductions on the number of values go by this lemma and need not look at the
    accumulator. -/
theorem times_succ_eq_ok {m : Draw α} {n : Nat} {s s'' : State} {as : List α} :
    times (n + 1) m s = (.ok as, s'') ↔
      ∃ a rest s', as = a :: rest ∧ m s = (.ok a, s') ∧ times n m s' = (.ok rest, s'') := by
  rw [times_succ, bind_eq_ok]
  constructor
  · rintro ⟨a, s', hfirst, hothers⟩
    rw [map_eq_pure_bind, bind_eq_ok] at hothers
    obtain ⟨rest, s₁, hrest, hpure⟩ := hothers
    cases hpure
    exact ⟨a, rest, s', rfl, hfirst, hrest⟩
  · rintro ⟨a, rest, s', rfl, hfirst, hrest⟩
    refine ⟨a, s', hfirst, ?_⟩
    rw [map_eq_pure_bind, bind_eq_ok]
    exact ⟨rest, s'', hrest, rfl⟩

/-- A result whose value or error is as asked for. -/
def Accepts (E : GenError → Prop) (R : α → Prop) : Except GenError α → Prop
  | .ok a => R a
  | .error e => E e

/-- From every state, the draw steps on to a result that is as asked for. -/
def Meets (E : GenError → Prop) (R : List String → α → Prop) (m : Draw α) : Prop :=
  ∀ s : State, ∃ new, s.Step new (m s).2 ∧ Accepts E (R new) (m s).1

/-- The value is as asked for, whatever was handed out for it. -/
abbrev Gives (E : GenError → Prop) (P : α → Prop) (m : Draw α) : Prop := Meets E (fun _ a => P a) m

/-- Every value the draw gives, from whatever state, is as asked for. -/
def Ensures (P : α → Prop) (m : Draw α) : Prop := ∀ s a, (m s).1 = .ok a → P a

/-- Results that are as asked for are as asked for in a weaker way; errors stay as they are. -/
theorem Accepts.imp {R R' : α → Prop} (h : ∀ a, R a → R' a) :
    ∀ {r : Except GenError α}, Accepts E R r → Accepts E R' r
  | .ok _, hr => h _ hr
  | .error _, hr => hr

namespace Meets

/-- What is said of values and keys may be weakened. -/
theorem mono {m : Draw α} {R R' : List String → α → Prop} (hm : Meets E R m)
    (h : ∀ new a, R new a → R' new a) : Meets E R' m := fun s => by
  obtain ⟨new, hstep, hr⟩ := hm s
  exact ⟨new, hstep, hr.imp (h new)⟩

/-- What a draw gives along any step, it gives; this is the form in which statements about runs use
    `Gives`. -/
theorem ensures {m : Draw α} {P : α → Prop} (hm : Gives E P m) : Ensures P m := by
  intro s a ha
  obtain ⟨new, -, hr⟩ := hm s
  rw [ha] at hr
  exact hr

/-- A draw that can end in no error gives a value from every state. -/
theorem succeeds {m : Draw α} {P : α → Prop} (hm : Gives (fun _ => False) P m) (s : State) :
    ∃ a s', m s = (.ok a, s') ∧ P a := by
  obtain ⟨new, -, hr⟩ := hm s
  rcases hms : m s with ⟨e | a, s'⟩
  · rw [hms] at hr
    exact hr.elim
  · rw [hms] at hr
    exact ⟨a, s', rfl, hr⟩

/-- The keys that were handed out are unlike each other. -/
theorem nodup {m : Draw α} {R : List String → α → Prop} (hm : Meets E R m) :
    Meets E (fun new a => new.Nodup ∧ R new a) m := fun s => by
  obtain ⟨new, hstep, hr⟩ := hm s
  exact ⟨new, hstep, hr.imp fun a ha => ⟨hstep.distinct, ha⟩⟩

/-! ## Steps that hand out nothing -/

/-- A value that is known already is no step at all. -/
theorem pure {R : List String → α → Prop} {a : α} (h : R [] a) : Meets E R (pure a) :=
  fun _ => ⟨[], .of_eq rfl rfl, h⟩

/-- A failure that is known already is no step at all, either. -/
theorem throw {R : List String → α → Prop} {e : GenError} (h : E e) :
    Meets E R (throw e : Draw α) :=
  fun _ => ⟨[], .of_eq rfl rfl, h⟩

/-- A result that is known already, be it a value or a failure. -/
theorem ofExcept {R : List String → α → Prop} {r : Except GenError α} (h : Accepts E (R []) r) :
    Meets E R (Draw.ofExcept r) :=
  fun _ => ⟨[], .of_eq rfl rfl, h⟩

/-- Taking something from the stream leaves the ledger alone, whatever is taken. -/
theorem sample {R : List String → α → Prop} {f : Stream → α × Stream} (h : ∀ s, R [] (f s).1) :
    Meets E R (Draw.sample f) :=
  fun s => ⟨[], .of_eq rfl rfl, h s.stream⟩

/-- Entering a key into the memory of a place leaves the ledger alone: what is unique at a place is
    not handed out. -/
theorem remember {R : List String → Bool → Prop} {place : Place} {key : String}
    (h : ∀ b, R [] b) : Meets E R (Draw.remember place key) := fun s => by
  unfold Draw.remember
  split
  · exact ⟨[], .of_eq rfl rfl, h false⟩
  · exact ⟨[], .of_eq rfl rfl, h true⟩

/-! ## One draw after the other -/

/-- One draw after the other: the keys of both, in this order.  This is the rule that all the others
    come down to. -/
theorem bind {m : Draw α} {f : α → Draw β} {R : List String → α → Prop}
    {R' : List String → β → Prop} (hm : Meets E R m)
    (hf : ∀ old a, R old a → Meets E (fun new b => R' (old ++ new) b) (f a)) :
    Meets E R' (m >>= f) := fun s => by
  obtain ⟨old, hstep, hr⟩ := hm s
  rw [bind_apply]
  rcases hms : m s with ⟨r, s'⟩
  rw [hms] at hstep hr
  cases r with
  | error e => exact ⟨old, hstep, hr⟩
  | ok a =>
    -- the second draw begins where the first one stopped
    obtain ⟨new, hstep', hr'⟩ := hf old a hr s'
    exact ⟨old ++ new, hstep.trans hstep', hr'⟩

/-- After an error nothing is drawn, so nothing that would come after it has to be looked at. -/
theorem throw_bind {f : α → Draw β} {R : List String → β → Prop} {e : GenError} (h : E e) :
    Meets E R ((MonadExcept.throw e : Draw α) >>= f) :=
  fun _ => ⟨[], .of_eq rfl rfl, h⟩

/-- Making something of the value changes neither the step nor the keys. -/
theorem map {m : Draw α} {f : α → β} {R : List String → β → Prop}
    (hm : Meets E (fun new a => R new (f a)) m) : Meets E R (f <$> m) := by
  rw [map_eq_pure_bind]
  refine hm.bind fun old a ha => .pure ?_
  rwa [List.append_nil]

/-- A draw in between whose keys do not matter, as long as what is said of the keys may be said of
    more of them. -/
theorem bind_gives {m : Draw α} {f : α → Draw β} {P : α → Prop} {R : List String → β → Prop}
    (hR : ∀ old new b, R new b → R (old ++ new) b) (hm : Gives E P m)
    (hf : ∀ a, P a → Meets E R (f a)) : Meets E R (m >>= f) :=
  hm.bind fun old a ha => (hf a ha).mono fun new b => hR old new b

/-- A draw, and a form that its values have; whether a value has it may depend on the keys that were
    handed out for it. -/
theorem as {m : Draw Value} {form : Value → Except GenError α} {R : List String → Value → Prop}
    {R' : List String → α → Prop} (hm : Meets E R m)
    (hform : ∀ new v, R new v → Accepts E (R' new) (form v)) : Meets E R' (m.as form) :=
  hm.bind fun old v hv => .ofExcept (by rw [List.append_nil]; exact hform old v hv)

/-- A value that may be left out: nothing is handed out by the toss, so there are two cases and no
    more. -/
theorem maybe {p : Float} {m : Draw α} {R : List String → Option α → Prop}
    (hnone : R [] none) (hsome : Meets E (fun new a => R new (some a)) m) :
    Meets E R (Draw.maybe p m) := by
  have hchance : Meets E (fun old _ => old = []) (Draw.chance p) := .sample fun _ => rfl
  -- the toss itself hands out nothing
  refine hchance.bind ?_
  rintro _ b rfl
  simp only [List.nil_append]
  cases b with
  | true => exact hsome.bind fun old a ha => .pure (by rwa [List.append_nil])
  | false => exact .pure hnone

/-! ## Repetition -/

/-- An accepted value may come after rejected ones, whose keys stay handed out.  So what is known
    of the keys handed out with a value must not be lost when others stand before them, which is
    `hR`. -/
theorem retry {m : Draw α} {accept : α → Draw (Option β)} {exhausted : GenError}
    {R : List String → α → Prop} {R' : List String → β → Prop}
    (hR : ∀ old new b, R' new b → R' (old ++ new) b) (hE : E exhausted) (hm : Meets E R m)
    (haccept : ∀ old a, R old a →
      Meets E (fun new result => ∀ b ∈ result, R' (old ++ new) b) (accept a)) :
    ∀ attempts, Meets E R' (Draw.retry exhausted accept m attempts)
  | 0 => .throw hE
  | n + 1 => by
    refine hm.bind fun old a ha => (haccept old a ha).bind fun new result hresult => ?_
    cases result with
    | some b =>
      refine .pure ?_
      rw [List.append_nil]
      exact hresult b rfl
    | none =>
      -- what the rejected value handed out stands before all that is still to come
      refine (retry hR hE hm haccept n).mono fun more b hb => ?_
      exact hR old _ b (hR new _ b hb)

/-- Several values, by induction on how many are left; `drawn` holds those before, the last one
    first, and `R` speaks of all of them in their order. -/
theorem timesOnto {m : Draw α} {R : List String → List α → Prop}
    (hstep : ∀ old as, R old as → Meets E (fun new a => R (old ++ new) (as ++ [a])) m) :
    ∀ (n : Nat) {old : List String} {drawn : List α}, R old drawn.reverse →
      Meets E (fun new as => R (old ++ new) as ∧ as.length = drawn.length + n)
        (Draw.timesOnto m drawn n)
  | 0, old, drawn, h => .pure ⟨by rwa [List.append_nil], List.length_reverse⟩
  | n + 1, old, drawn, h => by
    -- one more value, and the statement about all of them for the list that it begins
    refine (hstep old _ h).bind fun new a ha => ?_
    have hlater : R (old ++ new) (a :: drawn).reverse := by rwa [List.reverse_cons]
    refine (timesOnto hstep n hlater).mono fun more as has => ?_
    rw [← List.append_assoc]
    exact ⟨has.1, by rw [has.2, List.length_cons, Nat.add_right_comm, Nat.add_assoc]⟩

/-- What holds of no values and is kept by each further one, holds of the values together. -/
theorem times {m : Draw α} {R : List String → List α → Prop} (hnil : R [] [])
    (hstep : ∀ old as, R old as → Meets E (fun new a => R (old ++ new) (as ++ [a])) m) (n : Nat) :
    Meets E (fun new as => R new as ∧ as.length = n) (Draw.times n m) := by
  have hnone : R [] ([] : List α).reverse := hnil
  exact (timesOnto hstep n hnone).mono fun new as h => ⟨h.1, by simpa using h.2⟩

end Meets

/-! ## Values that carry keys -/

/-- The value is as asked for, and the keys it carries were handed out for it, in this order. -/
abbrev Carries (E : GenError → Prop) (keys : α → List String) (P : α → Prop) (m : Draw α) : Prop :=
  Meets E (fun new a => (keys a).Sublist new ∧ P a) m

namespace Carries

variable {keys : α → List String} {P : α → Prop} {m : Draw α}

/-- More keys handed out before do no harm: the keys of the value are still among them, in their
    order. -/
theorem grow (keys : α → List String) (P : α → Prop) (old new : List String) (a : α)
    (h : (keys a).Sublist new ∧ P a) : (keys a).Sublist (old ++ new) ∧ P a :=
  ⟨h.1.trans (List.sublist_append_right old new), h.2⟩

/-- A draw in between whose own keys do not matter. -/
theorem after_gives {d : Draw β} {f : β → Draw α} {Q : β → Prop} (hd : Gives E Q d)
    (hf : ∀ b, Q b → Carries E keys P (f b)) : Carries E keys P (d >>= f) :=
  Meets.bind_gives (grow keys P) hd hf

/-- Values that carry keys carry them together, one value after the other. -/
theorem times (hm : Carries E keys P m) (n : Nat) :
    Carries E (fun as => as.flatMap keys) (fun as => (∀ a ∈ as, P a) ∧ as.length = n)
      (Draw.times n m) := by
  let R : List String → List α → Prop := fun new as =>
    (as.flatMap keys).Sublist new ∧ ∀ a ∈ as, P a
  have hnil : R [] [] := ⟨List.Sublist.refl [], by simp⟩
  refine (Meets.times hnil (fun old as has => ?_) n).mono fun new as h => ⟨h.1.1, h.1.2, h.2⟩
  refine hm.mono fun new a ha => ⟨?_, ?_⟩
  · rw [List.flatMap_append, List.flatMap_singleton]
    exact has.1.append ha.1
  · intro b hb
    rcases List.mem_append.mp hb with hb | hb
    · exact has.2 b hb
    · exact List.mem_singleton.mp hb ▸ ha.2

end Carries

end Draw

end SyntheticTables
