/-
  Draws that look for a value that is new.

  In the run (`meets_uniqueInRun`): rejected values may have claimed and handed out keys of their own
  before the one that is accepted, and still the accepted key is unlike all of them, because each was
  in the ledger by the time it was tried.  At a place and among a list of texts, newness is a matter
  of the draw alone.
-/
import SyntheticTables.Proofs.Draw.Simple
import Std.Data.TreeSet.Lemmas

namespace SyntheticTables

/-! ## The ledger -/

/-- What is in the ledger once a key was entered: that key, and whatever was in it. -/
theorem State.mem_insert_ledger {s : State} {k key : String} :
    k ∈ s.ledger.insert key ↔ k = key ∨ k ∈ s.ledger := by
  rw [Std.TreeSet.mem_insert, Std.LawfulEqCmp.compare_eq_iff_eq, eq_comm]

/-- Entering a key hands nothing out. -/
theorem State.Step.insert (s : State) (key : String) :
    s.Step [] { s with ledger := s.ledger.insert key } where
  issued := rfl
  kept _ hk := State.mem_insert_ledger.mpr (.inr hk)
  fresh := by simp
  claimed := by simp
  distinct := List.nodup_nil

/-- Handing out a key that is in the ledger by now and was not before the stretch began adds it to
    the end of what the stretch hands out, and all that is said about a stretch still holds. -/
theorem State.Step.issue {s s' : State} {new : List String} {key : String} (h : s.Step new s')
    (hs : key ∉ s.ledger) (hnew : key ∉ new) (hs' : key ∈ s'.ledger) :
    s.Step (new ++ [key]) { s' with issued := key :: s'.issued } where
  issued := by simp [h.issued]
  kept := h.kept
  fresh k hk := by
    rcases List.mem_append.mp hk with hk | hk
    · exact h.fresh k hk
    · exact List.mem_singleton.mp hk ▸ hs
  claimed k hk := by
    rcases List.mem_append.mp hk with hk | hk
    · exact h.claimed k hk
    · exact List.mem_singleton.mp hk ▸ hs'
  distinct := by
    refine List.nodup_append.mpr ⟨h.distinct, by simp, ?_⟩
    rintro a ha b hb rfl
    exact hnew (List.mem_singleton.mp hb ▸ ha)

namespace Context

open Draw

variable {α : Type} {E : GenError → Prop} (c : Context)

/-! ## New in the run -/

/-- Where the search for a key that nobody claimed ends: with one that was not in the ledger, is in
    it now, and was not handed out on the way. -/
theorem claim_retry (key : α → String) {R : List String → α → Prop} {m : Draw α}
    {exhausted : GenError} (hE : E exhausted) (hR : ∀ old new a, R new a → R (old ++ new) a)
    (hm : Meets E R m) : ∀ (attempts : Nat) (s : State),
      let after := Draw.retry exhausted
        (fun a => do return if ← Draw.claim (key a) then some a else none) m attempts s
      ∃ new, s.Step new after.2 ∧ Accepts E (fun a =>
        R new a ∧ key a ∉ s.ledger ∧ key a ∉ new ∧ key a ∈ after.2.ledger) after.1
  | 0, s => ⟨[], .of_eq rfl rfl, hE⟩
  | n + 1, s => by
    obtain ⟨old, hstep, hr⟩ := hm s
    simp only [Draw.retry, bind_apply]
    rcases hms : m s with ⟨r, s'⟩
    rw [hms] at hstep hr
    cases r with
    | error e => exact ⟨old, hstep, hr⟩
    | ok a =>
      by_cases hkey : key a ∈ s'.ledger
      · -- rejected: what was handed out for it stays handed out, and the search goes on
        have hclaim : (Draw.claim (key a)) s' = (.ok false, s') := by simp [Draw.claim, hkey]
        simp only [hclaim]
        obtain ⟨new, hstep', hr'⟩ := claim_retry key hE hR hm n s'
        refine ⟨old ++ new, hstep.trans hstep', hr'.imp ?_⟩
        rintro b ⟨hb, hs', hnew, hafter⟩
        refine ⟨hR old new b hb, fun hs => hs' (hstep.kept _ hs), ?_, hafter⟩
        intro hmem
        rcases List.mem_append.mp hmem with hold | hmem
        · exact hs' (hstep.claimed _ hold)
        · exact hnew hmem
      · -- accepted: nobody had claimed it, neither before the search nor on the way
        have hclaim : (Draw.claim (key a)) s'
            = (.ok true, { s' with ledger := s'.ledger.insert (key a) }) := by
          simp [Draw.claim, hkey]
        simp only [hclaim]
        refine ⟨old ++ [], hstep.trans (.insert s' (key a)), ?_⟩
        rw [List.append_nil]
        refine ⟨hr, fun hs => hkey (hstep.kept _ hs), fun hold => hkey (hstep.claimed _ hold), ?_⟩
        exact State.mem_insert_ledger.mpr (.inl rfl)

/-- The accepted key is handed out after everything that was handed out on the way to it, that is,
    by refused values and by the accepted one while it was drawn. -/
theorem meets_uniqueInRun {key : α → String} {R : List String → α → Prop} {m : Draw α}
    (hE : E (.uniquenessExhausted .run c.attempts)) (hR : ∀ old new a, R new a → R (old ++ new) a)
    (hm : Meets E R m) :
    Meets E (fun new a => ∃ before, new = before ++ [key a] ∧ R before a)
      (c.uniqueInRun key m) := fun s => by
  obtain ⟨new, hstep, hr⟩ := claim_retry key hE hR hm c.attempts.toNat s
  unfold uniqueInRun
  rw [bind_apply]
  revert hstep hr
  rcases Draw.retry _ _ m _ s with ⟨r, s'⟩
  cases r with
  | error e => exact fun hstep hr => ⟨new, hstep, hr⟩
  | ok a =>
    rintro hstep ⟨ha, hs, hnew, hs'⟩
    exact ⟨new ++ [key a], hstep.issue hs hnew hs', new, rfl, ha⟩

/-! ## New at a place -/

/-- A search at a place hands out what the draws of its values hand out, and nothing of its own:
    what it enters is remembered at the place, not claimed in the run. -/
theorem meets_uniqueAt {place : Place} {R : List String → Value → Prop} {m : Draw Value}
    (hE : E (.uniquenessExhausted .generator c.attempts))
    (hR : ∀ old new v, R new v → R (old ++ new) v) (hm : Meets E R m) :
    Meets E R (c.uniqueAt place m) := by
  refine .retry hR hE hm (fun old v hv => ?_) _
  refine (Meets.remember (R := fun new _ => new = []) fun _ => rfl).bind ?_
  rintro _ b rfl
  refine .pure fun w hw => ?_
  rw [List.append_nil, List.append_nil]
  cases b with
  | true =>
    cases hw
    exact hv
  | false => cases hw

/-! ## New in a list -/

/-- A text of its own: its key is not among those seen, and is among them from now on. -/
theorem gives_newText {seen : Std.TreeSet String} {m : Draw String}
    (hE : E (.uniquenessExhausted .generator c.attempts)) (hm : Gives E (fun _ => True) m) :
    Gives E (fun p => textKey p.1 ∉ seen ∧ ∀ k, k ∈ p.2 ↔ k = textKey p.1 ∨ k ∈ seen)
      (c.newText seen m) := by
  refine .retry (fun _ _ _ h => h) hE hm (fun _ s _ => .pure fun p hp => ?_) _
  by_cases hs : textKey s ∈ seen
  · simp [hs] at hp
  · simp only [Std.TreeSet.contains_iff_mem, hs, if_false] at hp
    cases hp
    exact ⟨hs, fun k => by
      rw [Std.TreeSet.mem_insert, Std.LawfulEqCmp.compare_eq_iff_eq, eq_comm]⟩

/-- The set holds the keys of the texts, and the texts are unlike each other. -/
structure Tracks (seen : Std.TreeSet String) (texts : List String) : Prop where
  seen : ∀ t ∈ texts, textKey t ∈ seen
  distinct : texts.Nodup

/-- Of no texts the empty set is the set of keys. -/
theorem Tracks.nil : Tracks ∅ [] := ⟨by simp, List.nodup_nil⟩

/-- One text more, whose key was not in the set and is in it now. -/
theorem Tracks.cons {seen seen' : Std.TreeSet String} {texts : List String} {t : String}
    (h : Tracks seen texts) (ht : textKey t ∉ seen)
    (hseen : ∀ k, k ∈ seen' ↔ k = textKey t ∨ k ∈ seen) : Tracks seen' (t :: texts) where
  seen u hu := by
    rcases List.mem_cons.mp hu with rfl | hu
    · exact (hseen _).mpr (.inl rfl)
    · exact (hseen _).mpr (.inr (h.seen u hu))
  distinct := List.nodup_cons.mpr ⟨fun hmem => ht (h.seen t hmem), h.distinct⟩

/-- A number of texts that are unlike each other and unlike those before, by induction on how many
    are left. -/
theorem gives_newTextsOnto {m : Draw String} (hE : E (.uniquenessExhausted .generator c.attempts))
    (hm : Gives E (fun _ => True) m) : ∀ (n : Nat) {seen : Std.TreeSet String}
      {drawn : List String}, Tracks seen drawn →
      Gives E (fun ts => ts.Nodup ∧ ts.length = drawn.length + n)
        (c.newTextsOnto m seen drawn n)
  | 0, seen, drawn, h => .pure ⟨drawn.reverse_perm.nodup_iff.mpr h.distinct, List.length_reverse⟩
  | n + 1, seen, drawn, h => by
    refine (c.gives_newText hE hm).bind fun _ p hp => ?_
    refine (gives_newTextsOnto hE hm n (h.cons hp.1 hp.2)).mono fun _ ts hts => ?_
    exact ⟨hts.1, by rw [hts.2, List.length_cons, Nat.add_right_comm, Nat.add_assoc]⟩

/-- A number of texts that are unlike each other, at least as many as the range asks for.  The keys
    are those of texts, so unlike keys mean unlike texts. -/
theorem gives_distinctTexts {count : SizeSpec} {m : Draw String}
    (hE : E (.uniquenessExhausted .generator c.attempts)) (hm : Gives E (fun _ => True) m) :
    Gives E (fun ts => ts.Nodup ∧ (count.min ≤ count.max → count.min.toNat ≤ ts.length))
      (c.distinctTexts count m) := by
  have hsize : Gives E (fun n => count.min ≤ count.max → count.min.toNat ≤ n) (size count) := by
    by_cases h : count.min ≤ count.max
    · exact (gives_size h).mono fun _ _ hn _ => hn.1
    · exact (gives_size_any count).mono fun _ _ _ hle => absurd hle h
  refine hsize.bind fun _ n hn => (c.gives_newTextsOnto hE hm n .nil).mono fun _ ts hts => ?_
  exact ⟨hts.1, fun hle => by simpa [hts.2] using hn hle⟩

/-- The labels that some levels have. -/
def labels (levels : List Level) : List String := levels.filterMap (·.label)

/-- Labeling leaves the values of the levels alone, and labels are unlike each other.  The induction
    is on the values; `Tracks` says that the seen keys are those of the labels given so far. -/
theorem gives_labelsOnto {m : Draw String} (hE : E (.uniquenessExhausted .generator c.attempts))
    (hm : Gives E (fun _ => True) m) (labeled : Bool) : ∀ (values : List LevelValue)
      {seen : Std.TreeSet String} {drawn : List Level}, Tracks seen (labels drawn) →
      Gives E (fun ls => ls.map (·.value) = drawn.reverse.map (·.value) ++ values ∧
        (labels ls).Nodup) (c.labelsOnto m labeled seen drawn values)
  | [], seen, drawn, h => by
    refine .pure ⟨by rw [List.append_nil], ?_⟩
    rw [labels, List.filterMap_reverse]
    exact (List.reverse_perm _).nodup_iff.mpr h.distinct
  | value :: rest, seen, drawn, h => by
    unfold labelsOnto
    -- without labels nothing is put to the seen ones either
    cases labeled with
    | true =>
      refine (c.gives_newText hE hm).bind fun _ p hp => ?_
      have htracks : Tracks p.2 (labels (⟨value, some p.1⟩ :: drawn)) := h.cons hp.1 hp.2
      refine (gives_labelsOnto hE hm true rest htracks).mono fun _ ls hls => ⟨?_, hls.2⟩
      rw [hls.1]
      simp
    | false =>
      have htracks : Tracks seen (labels (⟨value, none⟩ :: drawn)) := h
      refine (gives_labelsOnto hE hm false rest htracks).mono fun _ ls hls => ⟨?_, hls.2⟩
      rw [hls.1]
      simp

end Context

end SyntheticTables
