/-
  Values that are new at their place.

  The memory of a place holds the key of every value that a search there accepted, and forgets none.
  So over any stretch of a run the accepted keys were not in it before, are in it afterwards, and
  are unlike each other (`Learned`).  This passes from one search to a batch of them and to each
  position of a sequence, and from one call to a history of calls (`Watched.learned`): a call that
  fails half-way has learned more than it gives, and so has one whose value is thrown away, but that
  only keeps later values away.  Texts that are to be new in a list are told apart by a set which the
  draw begins without and drops at its end; the state does not hold it.
-/
import SyntheticTables.Proofs.Draw.Footprint
import SyntheticTables.Proofs.Run

namespace SyntheticTables

open Draw

/-! ## Sets that learn -/

/-- A set has come to hold these keys: none of them was in it, and they are unlike each other. -/
structure Learned (before : Std.TreeSet String) (keys : List String) (after : Std.TreeSet String) :
    Prop where
  kept : ∀ key ∈ before, key ∈ after
  fresh : ∀ key ∈ keys, key ∉ before
  seen : ∀ key ∈ keys, key ∈ after
  distinct : keys.Nodup

namespace Learned

variable {before middle after : Std.TreeSet String}

/-- A set that lost nothing has learned no keys, whatever else it may have come to hold. -/
theorem of_kept (h : ∀ key ∈ before, key ∈ after) : Learned before [] after :=
  ⟨h, by simp, by simp, List.nodup_nil⟩

/-- Inserting a key that the set lacks teaches it exactly this key. -/
theorem insert {key : String} (h : key ∉ before) : Learned before [key] (before.insert key) where
  kept _ hk := Std.TreeSet.mem_insert.mpr (.inr hk)
  fresh k hk := List.mem_singleton.mp hk ▸ h
  seen k hk := List.mem_singleton.mp hk ▸ Std.TreeSet.mem_insert_self
  distinct := by simp

/-- Learning is sequential: what the second stretch teaches was not in the set after the first, so
    the keys of both are unlike each other. -/
theorem trans {old new : List String} (h : Learned before old middle)
    (h' : Learned middle new after) : Learned before (old ++ new) after where
  kept key hkey := h'.kept key (h.kept key hkey)
  fresh key hkey := by
    rcases List.mem_append.mp hkey with hold | hnew
    · exact h.fresh key hold
    · exact fun hbefore => h'.fresh key hnew (h.kept key hbefore)
  seen key hkey := by
    rcases List.mem_append.mp hkey with hold | hnew
    · exact h'.kept key (h.seen key hold)
    · exact h'.seen key hnew
  distinct := by
    refine List.nodup_append.mpr ⟨h.distinct, h'.distinct, ?_⟩
    -- an old key was in the set by the time the new ones came
    rintro key hold _ hnew rfl
    exact h'.fresh key hnew (h.seen key hold)

end Learned

namespace Draw

variable {α : Type} {place : Place}

/-- Where the draw gives a value, the memory of the place has learned its keys. -/
def Learns (place : Place) (keys : α → List String) (m : Draw α) : Prop :=
  ∀ s a s', m s = (.ok a, s') → Learned (s.seenAt place) (keys a) (s'.seenAt place)

/-- Whatever a draw does, a place forgets nothing. -/
theorem Confined.kept {m : Draw α} (hm : m.Confined .whole) (place : Place) (s : State) :
    Learned (s.seenAt place) [] ((m s).2.seenAt place) :=
  .of_kept ((hm.keeps s).grows place)

/-- The same for a draw whose result and last state have names. -/
theorem Confined.kept_of_eq {m : Draw α} (hm : m.Confined .whole) (place : Place) {s s' : State}
    {r : Except GenError α} (h : m s = (r, s')) :
    Learned (s.seenAt place) [] (s'.seenAt place) := by
  have hkept := hm.kept place s
  rwa [h] at hkept

/-- A repetition learns the keys of all its values.  By induction on their number: each later value
    is drawn from a set that holds the earlier ones. -/
theorem Learns.times {m : Draw α} {keys : α → List String} (hm : Learns place keys m) (n : Nat) :
    Learns place (fun as => as.flatMap keys) (Draw.times n m) := by
  induction n with
  | zero =>
    intro s as s' h
    cases h
    exact .of_kept fun _ => id
  | succ n ih =>
    intro s as s' h
    obtain ⟨a, rest, s₁, rfl, hfirst, hrest⟩ := times_succ_eq_ok.mp h
    show Learned _ ((a :: rest).flatMap keys) _
    rw [List.flatMap_cons]
    -- `a` is drawn first, so its keys come before those of the rest
    exact (hm s a s₁ hfirst).trans (ih s₁ rest s' hrest)

end Draw

/-! ## Searches -/

namespace Context

variable (c : Context) {place : Place}

/-- A search ends with a value that the place did not hold and holds now; the values it rejected on
    the way may have made the place learn more. -/
theorem learned_of_retry {m : Draw Value} (hm : m.Confined .whole) (exhausted : GenError) :
    ∀ n, Learns place (fun v => [v.key]) (Draw.retry exhausted
      (fun v => do return if ← Draw.remember place v.key then some v else none) m n)
  | 0, _, _, _, h => by cases h
  | n + 1, s, v, s', h => by
    obtain ⟨w, s₁, hfirst, hrest⟩ := bind_eq_ok.mp h
    have hkept := hm.kept_of_eq place hfirst
    -- a key that the place knows sends the search on to its next try, a new one ends it
    by_cases hkey : w.key ∈ s₁.seenAt place
    · have hremember : Draw.remember place w.key s₁ = (.ok false, s₁) := by
        simp [Draw.remember, hkey]
      simp only [bind_apply, hremember] at hrest
      exact hkept.trans (learned_of_retry hm exhausted n s₁ v s' hrest)
    · have hremember : Draw.remember place w.key s₁ = (.ok true, { s₁ with
          memory := s₁.memory.insert place ((s₁.seenAt place).insert w.key) }) := by
        simp [Draw.remember, hkey]
      simp only [bind_apply, hremember] at hrest
      cases hrest
      refine hkept.trans ?_
      rw [State.seenAt_insert, if_pos rfl]
      exact .insert hkey

/-- The value of a search at a place is new there: its key is what the place has learned. -/
theorem uniqueAt_learns {m : Draw Value} (hm : m.Confined .whole) :
    Learns place (fun v => [v.key]) (c.uniqueAt place m) :=
  learned_of_retry hm _ _

/-! ## Lists of texts -/

/-- A text that is drawn as new in a list is one that the list did not have, and the set it hands on
    has it.  The state may change on the way, but the set is no part of it. -/
theorem learned_of_newText {m : Draw String} {seen seen' : Std.TreeSet String} {text : String}
    {s s' : State} (h : c.newText seen m s = (.ok (text, seen'), s')) :
    Learned seen [textKey text] seen' := by
  unfold newText at h
  revert h
  generalize c.attempts.toNat = n
  intro h
  induction n generalizing s with
  | zero => cases h
  | succ n ih =>
    obtain ⟨t, s₁, hfirst, hrest⟩ := bind_eq_ok.mp h
    by_cases ht : textKey t ∈ seen
    · simp only [Std.TreeSet.contains_iff_mem, ht, if_true] at hrest
      exact ih hrest
    · simp only [Std.TreeSet.contains_iff_mem, ht, if_false] at hrest
      cases hrest
      exact .insert ht

/-- The texts that are added to a list, with the set that their draw ends with.  By induction on how
    many are missing; `drawn` holds the earlier ones in reverse. -/
theorem learned_of_newTextsOnto {m : Draw String} : ∀ {n : Nat} {seen : Std.TreeSet String}
    {drawn texts : List String} {s s' : State},
      c.newTextsOnto m seen drawn n s = (.ok texts, s') →
        ∃ new seen', texts = drawn.reverse ++ new ∧ Learned seen (new.map textKey) seen'
  | 0, seen, drawn, texts, s, s', h => by
    cases h
    exact ⟨[], seen, (List.append_nil _).symm, .of_kept fun _ => id⟩
  | n + 1, seen, drawn, texts, s, s', h => by
    obtain ⟨⟨text, seen₁⟩, s₁, hfirst, hrest⟩ := bind_eq_ok.mp h
    obtain ⟨new, seen', rfl, hnew⟩ := learned_of_newTextsOnto hrest
    exact ⟨text :: new, seen', by simp, (c.learned_of_newText hfirst).trans hnew⟩

/-- Texts that are drawn as new in a list have different keys: their set begins empty and learns the
    key of each. -/
theorem nodup_keys_of_distinctTexts {m : Draw String} (count : SizeSpec) :
    Ensures (fun texts => (texts.map textKey).Nodup) (c.distinctTexts count m) := by
  intro s texts h
  obtain ⟨n, s₁, -, htexts⟩ := bind_eq_ok.mp (Prod.ext h rfl)
  obtain ⟨new, seen', rfl, hnew⟩ := c.learned_of_newTextsOnto htexts
  exact hnew.distinct

end Context

/-! ## Histories -/

/-- The elements of a sequence. -/
def Value.elements : Value → List Value
  | .seq items => items
  | _ => []

/-- A stretch of a run, from one state to another, in which a draw is called time and again.  Other
    draws come before, between and after the calls, and may end in any result; those of the calls
    themselves are kept, errors included. -/
inductive Watched (m : Draw Value) : State → List (Except GenError Value) → State → Prop
  | done (s : State) : Watched m s [] s
  | call {s s' : State} {results : List (Except GenError Value)} :
    Watched m (m s).2 results s' → Watched m s ((m s).1 :: results) s'
  | other {s s' : State} {results : List (Except GenError Value)} {α : Type} (d : Draw α) :
    d.Confined .whole → Watched m (d s).2 results s' → Watched m s results s'

namespace Watched

variable {m : Draw Value} {s s' : State} {results : List (Except GenError Value)}

/-- What a draw ensures of its values holds of every value that a history of its calls gave. -/
theorem ensures {P : Value → Prop} (hP : Ensures P m) (h : Watched m s results s') :
    ∀ v ∈ Run.values results, P v := by
  induction h with
  | done s => exact fun v hv => absurd hv List.not_mem_nil
  | @call s s' results _ ih =>
    cases hresult : (m s).1 with
    | error e => exact ih
    | ok v => exact List.forall_mem_cons.mpr ⟨hP s v hresult, ih⟩
  | other d _ _ ih => exact ih

/-- What the calls of a history learn, they learn together.  By induction on the history: a call
    that fails and a draw that is none of the calls may teach the place more, but make it forget
    nothing. -/
theorem learned {place : Place} {keys : Value → List String} (hm : m.Confined .whole)
    (hkeys : Learns place keys m) (h : Watched m s results s') :
    Learned (s.seenAt place) ((Run.values results).flatMap keys) (s'.seenAt place) := by
  induction h with
  | done s => exact .of_kept fun _ => id
  | @call s s' results _ ih =>
    cases hresult : (m s).1 with
    | error e => exact (hm.kept place s).trans ih
    | ok v => exact (hkeys s v (m s).2 (Prod.ext hresult rfl)).trans ih
  | other d hd _ ih => exact (hd.kept place _).trans ih

end Watched

/-! ## Batches and sequences -/

namespace Node

variable {c : Context} {missing : Draw String} (hmissing : missing.Confined .whole)
  (place : Place)

include hmissing

/-- A tree whose missing values stay within the whole state stays within it. -/
theorem draw_confined_whole (n : Node) : (n.draw c missing place).Confined .whole :=
  draw_confined hmissing n place (Footprint.covers_whole place) (absurd trivial)

/-- So does a list of children, each drawn at its own place. -/
theorem drawEach_confined_whole (ns : List Node) (distinct : Bool) (index : Nat) :
    (drawEach c missing place distinct index ns).Confined .whole :=
  drawEach_confined hmissing ns place (Footprint.covers_whole place) (absurd trivial) distinct index

/-- All elements of a batch are new at the one place they are drawn at, so that place has learned
    their keys, and a later batch of the same node starts from them. -/
theorem batch_learns (child : Node) (count : SizeSpec) :
    Learns (0 :: place) (fun v => v.elements.map Value.key)
      ((Node.batch child count true).draw c missing place) := by
  intro s v s' h
  rw [Node.draw] at h
  obtain ⟨n, s₁, hsize, hrest⟩ := bind_eq_ok.mp h
  rw [map_eq_pure_bind] at hrest
  obtain ⟨vs, s₂, hvalues, hpure⟩ := bind_eq_ok.mp hrest
  cases hpure
  have hchild := draw_confined_whole (c := c) hmissing (0 :: place) child
  have hlearned : Learned (s₁.seenAt (0 :: place)) (vs.flatMap fun v => [v.key])
      (s'.seenAt (0 :: place)) := (c.uniqueAt_learns hchild).times n s₁ vs s' hvalues
  rw [← List.map_eq_flatMap] at hlearned
  exact ((size_confined count).kept_of_eq _ hsize).trans hlearned

/-- The child with number `i` is new at a place of its own; the others leave it what it learned.  By
    induction on the children: either the first of them is the child, or it is among the rest and
    the first only leaves its place alone. -/
theorem drawEach_learns : ∀ (ns : List Node) (index i : Nat),
    Learns ((index + i) :: place) (fun vs => vs[i]?.toList.map Value.key)
      (drawEach c missing place true index ns)
  | [], index, i, s, vs, s', h => by
    cases h
    exact .of_kept fun _ => id
  | n :: rest, index, i, s, vs, s', h => by
    rw [drawEach] at h
    obtain ⟨v, s₁, hfirst, hrest⟩ := bind_eq_ok.mp h
    obtain ⟨more, s₂, hmore, hpure⟩ := bind_eq_ok.mp hrest
    cases hpure
    have hchild := draw_confined_whole (c := c) hmissing (index :: place) n
    -- the place of child 0 is the one the search is at; for a later child it is one of those below
    cases i with
    | zero =>
      have hlater := (drawEach_confined_whole hmissing place rest true (index + 1)).kept_of_eq
        (index :: place) hmore
      exact (c.uniqueAt_learns hchild s v s₁ hfirst).trans hlater
    | succ i =>
      have hitem : (c.uniqueAt (index :: place) _).Confined .whole :=
        c.uniqueAt_confined hchild trivial
      have hlater := drawEach_learns rest (index + 1) i s₁ more s' hmore
      rw [Nat.add_right_comm, Nat.add_assoc] at hlater
      exact (hitem.kept_of_eq _ hfirst).trans hlater

/-- A position of a sequence learns the key of the child at it.  The list is empty for a position
    that the sequence does not have. -/
theorem seq_learns (children : List Node) (i : Nat) :
    Learns (i :: place) (fun v => v.elements[i]?.toList.map Value.key)
      ((Node.seq children true).draw c missing place) := by
  intro s v s' h
  rw [Node.draw] at h
  split at h
  · cases h
  · rw [map_eq_pure_bind] at h
    obtain ⟨vs, s₁, hvalues, hpure⟩ := bind_eq_ok.mp h
    cases hpure
    have hlearned := drawEach_learns hmissing place children 0 i s vs s' hvalues
    rwa [Nat.zero_add] at hlearned

end Node

/-! ## Forms -/

namespace Node

variable {c : Context} {missing : Draw String} {place : Place}

/-- A batch gives a sequence, so `elements` says all of it. -/
theorem batch_ensures_seq (child : Node) (count : SizeSpec) :
    Ensures (fun v => v = .seq v.elements)
      ((Node.batch child count true).draw c missing place) := by
  intro s v h
  rw [Node.draw] at h
  obtain ⟨n, s₁, -, hrest⟩ := bind_eq_ok.mp (Prod.ext h rfl)
  rw [map_eq_pure_bind] at hrest
  obtain ⟨vs, s₂, -, hpure⟩ := bind_eq_ok.mp hrest
  cases hpure
  rfl

/-- As many values are drawn as there are children. -/
theorem length_of_drawEach : ∀ {ns : List Node} {index : Nat} {s s' : State} {vs : List Value},
    drawEach c missing place true index ns s = (.ok vs, s') → vs.length = ns.length
  | [], index, s, s', vs, h => by
    cases h
    rfl
  | n :: rest, index, s, s', vs, h => by
    rw [drawEach] at h
    obtain ⟨v, s₁, -, hrest⟩ := bind_eq_ok.mp h
    obtain ⟨more, s₂, hmore, hpure⟩ := bind_eq_ok.mp hrest
    cases hpure
    exact congrArg (· + 1) (length_of_drawEach hmore)

/-- A sequence gives one element for each of its children; without children it fails. -/
theorem seq_ensures_seq (children : List Node) :
    Ensures (fun v => v = .seq v.elements ∧ v.elements.length = children.length)
      ((Node.seq children true).draw c missing place) := by
  intro s v h
  rw [Node.draw] at h
  split at h
  · cases h
  · rw [map_eq_pure_bind] at h
    obtain ⟨vs, s₁, hvalues, hpure⟩ := bind_eq_ok.mp (Prod.ext h rfl)
    cases hpure
    exact ⟨rfl, length_of_drawEach hvalues⟩

end Node

/-! ## The same value at different positions -/

/-- The only integer of a range is drawn for certain.  The stream still moves on. -/
theorem Draw.int_self (i : Int64) (s : State) : ∃ stream,
    Draw.int i i s = (.ok i, { s with stream }) := by
  unfold Draw.int
  rw [dif_pos (Int64.le_refl i)]
  obtain ⟨hlow, hhigh⟩ := Sample.int64_mem (Int64.le_refl i) s.stream
  exact ⟨_, Prod.ext (congrArg Except.ok (Int64.le_antisymm hhigh hlow)) rfl⟩

/-- A search for the only integer of a range succeeds at its first try, if the place has not seen
    it; the place is the only one whose memory changes. -/
theorem Context.uniqueAt_integer_self (c : Context) (hattempts : 0 < c.attempts)
    (missing : Draw String) (place : Place) (i : Int64) (s : State)
    (hnew : (Value.int i).key ∉ s.seenAt place) :
    ∃ stream seen, c.uniqueAt place ((Node.integer i i).draw c missing place) s
      = (.ok (.int i), { s with stream, memory := s.memory.insert place seen }) := by
  obtain ⟨stream, hint⟩ := Draw.int_self i s
  obtain ⟨n, hn⟩ : ∃ n, c.attempts.toNat = n + 1 := by
    have hpos := UInt32.lt_iff_toNat_lt.mp hattempts
    exact ⟨c.attempts.toNat - 1, (Nat.sub_add_cancel hpos).symm⟩
  -- the key is new at this place, so the first try succeeds
  have hremember : Draw.remember place (Value.int i).key { s with stream } = (.ok true, { s with
      stream, memory := s.memory.insert place ((s.seenAt place).insert (Value.int i).key) }) := by
    have hnew' : (Value.int i).key ∉ ({ s with stream } : State).seenAt place := hnew
    unfold Draw.remember
    rw [if_neg (mt Std.TreeSet.contains_iff_mem.mp hnew')]
    rfl
  have hdraw : (Node.integer i i).draw c missing place s = (.ok (.int i), { s with stream }) := by
    rw [Node.draw, map_eq_pure_bind]
    exact bind_eq_ok.mpr ⟨i, _, hint, rfl⟩
  refine ⟨stream, (s.seenAt place).insert (Value.int i).key, ?_⟩
  unfold Context.uniqueAt
  rw [hn]
  exact bind_eq_ok.mpr ⟨_, _, hdraw, bind_eq_ok.mpr ⟨some (.int i), _,
    bind_eq_ok.mpr ⟨true, _, hremember, rfl⟩, rfl⟩⟩

/-- Where a child and those after it find new values, they are the values of the sequence. -/
theorem Node.drawEach_cons_eq_ok {c : Context} {missing : Draw String} {place : Place} {index : Nat}
    {n : Node} {rest : List Node} {v : Value} {vs : List Value} {s s₁ s₂ : State}
    (hv : c.uniqueAt (index :: place) (n.draw c missing (index :: place)) s = (.ok v, s₁))
    (hvs : Node.drawEach c missing place true (index + 1) rest s₁ = (.ok vs, s₂)) :
    Node.drawEach c missing place true index (n :: rest) s = (.ok (v :: vs), s₂) := by
  rw [Node.drawEach]
  exact bind_eq_ok.mpr ⟨v, s₁, hv, bind_eq_ok.mpr ⟨vs, s₂, hvs, rfl⟩⟩

/-- Each position of a sequence has a memory of its own, so both find the same integer.  Each of the
    two searches succeeds at its first try, as nothing was seen at either place. -/
theorem Node.seq_integers_self (c : Context) (hattempts : 0 < c.attempts) (missing : Draw String)
    (place : Place) (i : Int64) (s : State)
    (hnew : ∀ position, (Value.int i).key ∉ s.seenAt (position :: place)) :
    ((Node.seq [.integer i i, .integer i i] true).draw c missing place s).1
      = .ok (.seq [.int i, .int i]) := by
  obtain ⟨stream, seen, hfirst⟩ := c.uniqueAt_integer_self hattempts missing (0 :: place) i s
    (hnew 0)
  -- what the first position has learned is not in the memory of the second
  have hother : 0 :: place ≠ 1 :: place := fun h => absurd (List.cons.inj h).1 (by decide)
  have hsecond : (Value.int i).key ∉ ({ s with
      stream, memory := s.memory.insert (0 :: place) seen } : State).seenAt (1 :: place) := by
    have hseen := State.seenAt_insert { s with stream } (0 :: place) (1 :: place) seen
    rw [if_neg hother] at hseen
    rw [hseen]
    exact hnew 1
  -- so the second position's search, too, succeeds at its first try
  obtain ⟨stream', seen', hnext⟩ := c.uniqueAt_integer_self hattempts missing (1 :: place) i _
    hsecond
  have hvalues := Node.drawEach_cons_eq_ok hfirst (Node.drawEach_cons_eq_ok hnext
    (show Node.drawEach c missing place true 2 [] _ = (.ok [], _) from rfl))
  rw [Node.draw]
  show ((Value.seq <$> Node.drawEach c missing place true 0 [.integer i i, .integer i i]) s).1 = _
  rw [map_eq_pure_bind, bind_apply, hvalues]
  rfl

namespace Run

open Context

variable (r : Run)

/-- Default missing values, too, stay within the whole state, whether a style or a tree of their own
    gives them. -/
theorem defaultMissing_confined_whole : r.defaultMissing.Confined .whole := by
  unfold defaultMissing
  cases r.missing with
  | style s => exact r.context.missingName_confined s
  | custom node =>
    have hspss := r.context.missingName_confined (f := .whole) .spss
    exact (Node.draw_confined_whole hspss customPlace node).as Value.toText

/-- Every call of a run can stand between the calls of a history. -/
theorem draw_confined_whole (number : Nat) (n : Node) : (r.draw number n).Confined .whole :=
  Node.draw_confined_whole r.defaultMissing_confined_whole (rootPlace number) n

/-- Take any history of a run in which a draw that wants new values is called again and again,
    whatever is drawn in between, and whether the calls fail or not.  The elements of all batches
    that it gave have different keys.  Of sequences, that holds for each position by itself;
    different positions may hold the same value.  The texts of a list, at last, have different keys
    within each call, but the list touches nothing that the draw of its texts does not touch: where
    they come from the stream alone, what was drawn before makes no difference. -/
theorem local_unique_persists (place : Place) :
    (∀ (number : Nat) (n : Node), (r.draw number n).Confined .whole) ∧
    (∀ (child : Node) (count : SizeSpec) (s s' : State) (results : List (Except GenError Value)),
      Watched ((Node.batch child count true).draw r.context r.defaultMissing place) s results s' →
        (∀ v ∈ values results, v = .seq v.elements) ∧
        (((values results).flatMap Value.elements).map Value.key).Nodup) ∧
    (∀ (children : List Node) (s s' : State) (results : List (Except GenError Value)),
      Watched ((Node.seq children true).draw r.context r.defaultMissing place) s results s' →
        (∀ v ∈ values results, v = .seq v.elements ∧ v.elements.length = children.length) ∧
        ∀ i : Nat, (((values results).filterMap fun v => v.elements[i]?).map Value.key).Nodup) ∧
    (0 < r.context.attempts → ∀ (i : Int64) (seed : UInt64),
      ((Node.seq [.integer i i, .integer i i] true).draw r.context r.defaultMissing place
        (.ofSeed seed)).1 = .ok (.seq [.int i, .int i])) ∧
    ∀ (count : SizeSpec) (name : Draw String), let texts := r.context.distinctTexts count name
      Ensures (fun ts => (ts.map textKey).Nodup) texts ∧
      (∀ f, name.Confined f → texts.Confined f) ∧
      (name.Confined .streamOnly → ∀ s t : State, s.stream = t.stream →
        (texts s).1 = (texts t).1) := by
  have hmissing := r.defaultMissing_confined_whole
  refine ⟨r.draw_confined_whole, fun child count s s' results h => ⟨?_, ?_⟩,
    fun children s s' results h => ⟨?_, ?_⟩, ?_, ?_⟩
  · exact h.ensures (Node.batch_ensures_seq child count)
  -- what the place remembers grows by the keys of each call, and none is learned twice
  · have hlearned := h.learned (Node.draw_confined_whole hmissing place _)
      (Node.batch_learns hmissing place child count)
    rw [List.map_flatMap]
    exact hlearned.distinct
  · exact h.ensures (Node.seq_ensures_seq children)
  · intro i
    have hlearned := h.learned (Node.draw_confined_whole hmissing place _)
      (Node.seq_learns hmissing place children i)
    rw [List.filterMap_eq_flatMap_toList, List.map_flatMap]
    exact hlearned.distinct
  · intro hattempts i seed
    exact Node.seq_integers_self r.context hattempts r.defaultMissing place i (.ofSeed seed)
      fun position => by simp [State.seenAt, State.ofSeed]
  · intro count name
    refine ⟨r.context.nodup_keys_of_distinctTexts count,
      fun f hname => r.context.distinctTexts_confined hname count, fun hname s t hstream => ?_⟩
    -- the search looks at the stream alone, so whatever else has happened it goes the same way
    have hagree : State.Agree .streamOnly s t :=
      ⟨hstream, False.elim, False.elim, fun _ => False.elim⟩
    exact ((r.context.distinctTexts_confined hname count).agrees s t hagree).1

/-- A run with one word, in which a search may try twenty times. -/
def oneWordRun : Run := ⟨⟨"en_US", #["die"], Nat.one_pos, 20, 0.5⟩, .style .spss⟩

/-- A batch of three throws of a die, no number twice, at the place `[1]`. -/
def dice : Draw Value :=
  (Node.batch (.integer 1 6) (.fixed 3) true).draw oneWordRun.context oneWordRun.defaultMissing [1]

/-- A throw of two coins, neither on the same side twice, at the place `[2]`. -/
def coins : Draw Value :=
  (Node.seq [.integer 0 1, .integer 0 1] true).draw oneWordRun.context oneWordRun.defaultMissing [2]

/-- From seed 42, with a word drawn after the first call: two batches use up the six numbers of the
    die, two throws both sides of both coins, so the third call of each fails.  The positions of a
    sequence of two ones both hold 1, and a list of one word gives the same word in both of its
    calls. -/
theorem local_unique_persists_dice :
    (∃ (results : List (Except GenError Value)) (s' : State), Watched dice (.ofSeed 42) results s' ∧
      results.map (·.isOk) = [true, true, false] ∧
      (((values results).flatMap Value.elements).map Value.key).Nodup) ∧
    (∃ (results : List (Except GenError Value)) (s' : State), Watched coins (.ofSeed 42) results s' ∧
      results.map (·.isOk) = [true, true, false] ∧
      ∀ i : Nat, (((values results).filterMap fun v => v.elements[i]?).map Value.key).Nodup) ∧
    ((Node.seq [.integer 1 1, .integer 1 1] true).draw oneWordRun.context oneWordRun.defaultMissing [3]
      (.ofSeed 42)).1 = .ok (.seq [.int 1, .int 1]) ∧
    let texts := oneWordRun.context.distinctTexts (.fixed 1) oneWordRun.context.word
    let after := (texts (.ofSeed 42)).2
    (texts (.ofSeed 42)).1.toOption = some ["die"] ∧ (texts after).1.toOption = some ["die"] ∧
      (texts (.ofSeed 42)).1 = (texts { after with stream := .ofSeed 42 }).1 := by
  -- a word is drawn between the first call and the second
  have hword := oneWordRun.context.word_confined (f := .whole)
  have hdice := Watched.call (m := dice) (s := .ofSeed 42)
    (.other _ hword (.call (.call (.done _))))
  have hcoins := Watched.call (m := coins) (s := .ofSeed 42)
    (.other _ hword (.call (.call (.done _))))
  have hattempts : 0 < oneWordRun.context.attempts := by decide
  refine ⟨⟨_, _, hdice, ?_, ?_⟩, ⟨_, _, hcoins, ?_, ?_⟩, ?_, ?_, ?_, ?_⟩
  · decide +kernel
  · exact ((oneWordRun.local_unique_persists [1]).2.1 _ _ _ _ _ hdice).2
  · decide +kernel
  · exact ((oneWordRun.local_unique_persists [2]).2.2.1 _ _ _ _ hcoins).2
  · exact (oneWordRun.local_unique_persists [3]).2.2.2.1 hattempts 1 42
  · decide +kernel
  · decide +kernel
  · exact ((oneWordRun.local_unique_persists [4]).2.2.2.2 _ _).2.2
      oneWordRun.context.word_confined _ _ rfl

end Run

end SyntheticTables
