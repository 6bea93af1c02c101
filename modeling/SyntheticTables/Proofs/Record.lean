/-
  Records are read in any order.

  A slot puts its value into a field of its own, so reading two members the one way or the other
  gives the same record (`Slot.Commutes`), and with distinct names the order of the members does not
  show in what is read (`Record.ofMembers_perm`).  It is therefore enough to read the members as a
  writer puts them, slot after slot with some left out (`Record.Written`), to know what the sorted
  view of the document is read as (`Record.ofJson_sorted`).
-/
import SyntheticTables.Proofs.Checks
import SyntheticTables.Proofs.Json.Sorted
import SyntheticTables.Record

namespace SyntheticTables

variable {ρ : Type}

/-! ## Slots that do not get in each other's way -/

/-- Both slots read in either order give the same record, or none either way.  Nothing is said about
    which error is given, because that does depend on the order. -/
def Slot.Commutes (s t : Slot ρ) : Prop :=
  ∀ (v w : Json) (r r' : ρ), (s.read v r >>= t.read w) = .ok r' ↔ (t.read w r >>= s.read v) = .ok r'

/-- Commuting is symmetric, so of two slots it does not matter which stands first. -/
theorem Slot.Commutes.symm {s t : Slot ρ} (h : s.Commutes t) : t.Commutes s :=
  fun v w r r' => (h w v r r').symm

/-- Slots that fill different fields commute: the fields are independent, and each slot reads its
    own member alone. -/
theorem Slot.commutes_of_put {α β : Type} {name name' : String} {required required' : Bool}
    {decode : Json → Except DecodeError α} {decode' : Json → Except DecodeError β}
    {put : α → ρ → ρ} {put' : β → ρ → ρ} (h : ∀ a b r, put' b (put a r) = put a (put' b r)) :
    Slot.Commutes ⟨name, required, fun j r => (decode j).map fun a => put a r⟩
      ⟨name', required', fun j r => (decode' j).map fun b => put' b r⟩ := by
  intro v w r r'
  show (((decode v).map fun a => put a r) >>= fun r => (decode' w).map fun b => put' b r) = .ok r' ↔
    (((decode' w).map fun b => put' b r) >>= fun r => (decode v).map fun a => put a r) = .ok r'
  cases decode v with
  | error e => cases decode' w <;> exact iff_of_false nofun nofun
  | ok a =>
    cases decode' w with
    | error e => exact iff_of_false nofun nofun
    | ok b =>
      show Except.ok (put' b (put a r)) = .ok r' ↔ Except.ok (put a (put' b r)) = .ok r'
      rw [h]

namespace Record

/-- Slots with names of their own that do not get in each other's way. -/
structure Lawful (slots : List (Slot ρ)) : Prop where
  commute : slots.Pairwise Slot.Commutes
  distinct : (slots.map (·.name)).Nodup

variable {slots : List (Slot ρ)}

/-! ## Reading members one after the other -/

/-- Reads a member whatever was met before; one that is not known is passed over. -/
def readMember (slots : List (Slot ρ)) (r : ρ) (m : String × Json) : Except DecodeError ρ :=
  (slots.find? (·.name = m.1)).elim (.ok r) fun s => s.read m.2 r

/-- With distinct names nothing is met twice, and what was met are the names of the members.  By
    induction on the members, for any names met before that are not among theirs. -/
theorem readMembers_eq {ms : List (String × Json)} (h : DistinctNames ms) :
    ∀ {seen : List String}, (∀ m ∈ ms, m.1 ∉ seen) → ∃ seen',
      (∀ r : ρ, readMembers slots seen r ms
        = (ms.foldlM (readMember slots) r).map fun r => (r, seen')) ∧
      ∀ s ∈ slots, s.name ∈ seen' ↔ s.name ∈ ms.map (·.1) ∨ s.name ∈ seen := by
  induction ms with
  | nil => exact fun {seen} _ => ⟨seen, fun _ => rfl, fun s _ => by simp⟩
  | cons m rest ih =>
    intro seen hseen
    obtain ⟨hm, hrest⟩ := List.nodup_cons.mp h
    obtain ⟨hfirst, hlater⟩ := List.forall_mem_cons.mp hseen
    -- an unknown member is passed over and its name not recorded; the name of a known one is
    cases hfind : slots.find? (·.name = m.1) with
    | none =>
      obtain ⟨seen', hread, hnames⟩ := ih hrest hlater
      refine ⟨seen', fun r => ?_, fun s hs => ?_⟩
      · rw [readMembers, hfind, List.foldlM_cons, readMember, hfind]
        exact hread r
      · have hne : s.name ≠ m.1 := by simpa using List.find?_eq_none.mp hfind s hs
        rw [hnames s hs, List.map_cons, List.mem_cons, or_iff_right hne]
    | some slot =>
      have hnew : ∀ n ∈ rest, n.1 ∉ m.1 :: seen := by
        intro n hn hmem
        rcases List.mem_cons.mp hmem with heq | hmem
        · exact hm (List.mem_map.mpr ⟨n, hn, heq⟩)
        · exact hlater n hn hmem
      obtain ⟨seen', hread, hnames⟩ := ih hrest hnew
      have hcontains : seen.contains m.1 = false := by simpa using hfirst
      refine ⟨seen', fun r => ?_, fun s hs => ?_⟩
      · rw [readMembers, hfind, List.foldlM_cons, readMember, hfind]
        simp only [hcontains, Bool.false_eq_true, if_false, Option.elim]
        cases slot.read m.2 r with
        | error e => rfl
        | ok r' => exact hread r'
      · rw [hnames s hs, List.map_cons, List.mem_cons, List.mem_cons, or_left_comm, or_assoc]

/-- Nothing is missing when every slot that needs a member has met its name. -/
theorem missing?_eq_none_iff {seen : List String} :
    missing? slots seen = none ↔ ∀ s ∈ slots, s.required = true → s.name ∈ seen := by
  unfold missing?
  rw [Option.map_eq_none_iff, List.find?_eq_none]
  simp

/-- A record is read when each member is and none is missing that it needs.  With distinct names no
    slot is filled twice, so what was seen need not be carried along. -/
theorem ofMembers_eq_ok_iff {ms : List (String × Json)} (h : DistinctNames ms) {start r : ρ} :
    ofMembers slots start ms = .ok r ↔ ms.foldlM (readMember slots) start = .ok r ∧
      ∀ s ∈ slots, s.required = true → s.name ∈ ms.map (·.1) := by
  have hnone : ∀ m ∈ ms, m.1 ∉ ([] : List String) := fun _ _ => List.not_mem_nil
  obtain ⟨seen, hread, hnames⟩ := readMembers_eq h hnone
  have hmissing : missing? slots seen = none ↔
      ∀ s ∈ slots, s.required = true → s.name ∈ ms.map (·.1) := by
    rw [missing?_eq_none_iff]
    refine forall₂_congr fun s hs => ?_
    rw [hnames s hs, or_iff_left (List.not_mem_nil)]
  unfold ofMembers
  rw [hread, ← hmissing]
  cases ms.foldlM (readMember slots) start with
  | error e => exact iff_of_false nofun nofun
  | ok r' =>
    cases hm : missing? slots seen with
    | some name => exact iff_of_false (by simp [bind, Except.bind, Except.map, hm]) (by simp)
    | none => simp [bind, Except.bind, Except.map, hm]

/-! ## The order does not matter -/

/-- Two neighbours with different names may change places, whether or not there are slots for them.
    Different names are for different slots, and reading into two slots commutes. -/
theorem readMember_swap (hcommute : slots.Pairwise Slot.Commutes) {m n : String × Json}
    (hne : m.1 ≠ n.1) {r r' : ρ} :
    (readMember slots r m >>= (readMember slots · n)) = .ok r' ↔
      (readMember slots r n >>= (readMember slots · m)) = .ok r' := by
  unfold readMember
  cases hm : slots.find? (·.name = m.1) with
  | none =>
    cases slots.find? (·.name = n.1) with
    | none => rfl
    | some t =>
      show t.read n.2 r = .ok r' ↔ (t.read n.2 r >>= pure) = .ok r'
      rw [bind_pure]
  | some s =>
    cases hn : slots.find? (·.name = n.1) with
    | none =>
      show (s.read m.2 r >>= pure) = .ok r' ↔ s.read m.2 r = .ok r'
      rw [bind_pure]
    | some t =>
      have hs : s.name = m.1 := by simpa using List.find?_some hm
      have ht : t.name = n.1 := by simpa using List.find?_some hn
      have hst : s ≠ t := by
        rintro rfl
        exact hne (hs.symm.trans ht)
      -- which of the two slots stands first is open
      have hsymm : Std.Symm (Slot.Commutes (ρ := ρ)) := ⟨fun _ _ => Slot.Commutes.symm⟩
      exact hcommute.forall (List.mem_of_find?_eq_some hm) (List.mem_of_find?_eq_some hn) hst
        m.2 n.2 r r'

/-- All members may change places.  By induction on the permutation, whose one proper step swaps two
    neighbours. -/
theorem foldlM_readMember_perm (hcommute : slots.Pairwise Slot.Commutes)
    {xs ys : List (String × Json)} (hperm : xs.Perm ys) (h : DistinctNames xs) {r r' : ρ} :
    xs.foldlM (readMember slots) r = .ok r' ↔ ys.foldlM (readMember slots) r = .ok r' := by
  induction hperm generalizing r with
  | nil => rfl
  | cons m _ ih =>
    rw [List.foldlM_cons, List.foldlM_cons, bind_eq_ok_iff, bind_eq_ok_iff]
    exact exists_congr fun r₁ => and_congr_right fun _ => ih (List.nodup_cons.mp h).2
  | swap m n rest =>
    have hne : n.1 ≠ m.1 := by
      intro heq
      exact (List.nodup_cons.mp h).1 (by simp [heq])
    simp only [List.foldlM_cons, ← bind_assoc]
    rw [bind_eq_ok_iff, bind_eq_ok_iff]
    exact exists_congr fun r₁ => and_congr_left fun _ => readMember_swap hcommute hne
  | trans hxy _ ihxy ihyz => exact (ihxy h).trans (ihyz (h.perm hxy))

/-- Members are read as the same record in whatever order they stand: what is needed is there in any
    order, and the fields are filled in any order. -/
theorem ofMembers_perm (hcommute : slots.Pairwise Slot.Commutes) {xs ys : List (String × Json)}
    (hperm : xs.Perm ys) (h : DistinctNames xs) {start r : ρ} :
    ofMembers slots start xs = .ok r ↔ ofMembers slots start ys = .ok r := by
  have hnames : ∀ n, n ∈ xs.map (·.1) ↔ n ∈ ys.map (·.1) := fun n =>
    (hperm.map fun m : String × Json => m.1).mem_iff
  rw [ofMembers_eq_ok_iff h, ofMembers_eq_ok_iff (h.perm hperm),
    foldlM_readMember_perm hcommute hperm h]
  simp only [hnames]

/-! ## Records as they are written -/

/-- The members stand in the order of the slots, some left out, and fill the first record up to the
    second.  This is how a writer goes through its fields: it leaves out only what need not be
    there. -/
inductive Written : List (Slot ρ) → ρ → List (String × Json) → ρ → Prop
  | nil (r : ρ) : Written [] r [] r
  | member {s : Slot ρ} {slots : List (Slot ρ)} {v : Json} {ms : List (String × Json)}
      {r r₁ r₂ : ρ} (hread : s.read v r = .ok r₁) (hrest : Written slots r₁ ms r₂) :
      Written (s :: slots) r ((s.name, v) :: ms) r₂
  | leftOut {s : Slot ρ} {slots : List (Slot ρ)} {ms : List (String × Json)} {r r₂ : ρ}
      (hrequired : s.required = false) (hrest : Written slots r ms r₂) :
      Written (s :: slots) r ms r₂

namespace Written

variable {α : Type} {name : String} {decode : Json → Except DecodeError α} {ms : List (String × Json)}
  {r r₁ r₂ : ρ}

/-- A field that is always written. -/
theorem needed {put : α → ρ → ρ} {v : Json} {a : α} (hread : decode v = .ok a)
    (hrest : Written slots (put a r) ms r₂) :
    Written (.needed name decode put :: slots) r ((name, v) :: ms) r₂ := by
  refine .member (s := .needed name decode put) ?_ hrest
  show ((decode v).map fun a => put a r) = .ok (put a r)
  rw [hread]
  rfl

/-- A field of the first record that is not there need not be put in: the record holds the default
    there already, and the slot is not required. -/
theorem optional {put : Option α → ρ → ρ} {encode : α → Json} {o : Option α}
    (hread : ∀ a, (encode a).asOption decode = .ok (some a)) (hempty : put none r = r)
    (hrest : Written slots (put o r) ms r₂) :
    Written (.optional name decode put :: slots) r (Json.optional name encode o ++ ms) r₂ := by
  cases o with
  | none =>
    rw [hempty] at hrest
    exact .leftOut rfl hrest
  | some a =>
    refine .member (s := .optional name decode put) ?_ hrest
    show (((encode a).asOption decode).map fun a => put a r) = .ok (put (some a) r)
    rw [hread]
    rfl

/-- The last field, where no member follows. -/
theorem last {put : Option α → ρ → ρ} {encode : α → Json} {o : Option α}
    (hread : ∀ a, (encode a).asOption decode = .ok (some a)) (hempty : put none r = r) :
    Written [.optional name decode put] r (Json.optional name encode o) (put o r) := by
  rw [← List.append_nil (Json.optional name encode o)]
  exact optional hread hempty (.nil (put o r))

/-- The members have names of slots, in the order of the slots. -/
theorem names_sublist (h : Written slots r ms r₂) :
    (ms.map (·.1)).Sublist (slots.map (·.name)) := by
  induction h with
  | nil => exact List.Sublist.refl _
  | member _ _ ih => exact ih.cons_cons _
  | leftOut _ _ ih => exact ih.cons _

/-- What a slot needs was written: a slot is passed over only if it is not required, so the name of
    every required one is among the members. -/
theorem name_mem (h : Written slots r ms r₂) :
    ∀ s ∈ slots, s.required = true → s.name ∈ ms.map (·.1) := by
  induction h with
  | nil => simp
  | member _ _ ih =>
    intro s hs hrequired
    rcases List.mem_cons.mp hs with rfl | hs
    · exact List.mem_cons_self
    · exact List.mem_cons_of_mem _ (ih s hs hrequired)
  | leftOut hleft _ ih =>
    intro s hs hrequired
    rcases List.mem_cons.mp hs with rfl | hs
    · rw [hleft] at hrequired
      cases hrequired
    · exact ih s hs hrequired

/-- Each member belongs to the slot it was written for, which is found under its name.  By induction
    on what is written, among all slots of the record. -/
theorem foldlM_readMember {all : List (Slot ρ)} (hnames : (all.map (·.name)).Nodup)
    (h : Written slots r ms r₂) (hslots : ∀ s ∈ slots, s ∈ all) :
    ms.foldlM (readMember all) r = .ok r₂ := by
  induction h with
  | nil => rfl
  | @member s slots v ms r r₁ r₂ hread _ ih =>
    obtain ⟨hs, hslots⟩ := List.forall_mem_cons.mp hslots
    -- the slot found first has the same name, and names are distinct
    have hfind : all.find? (·.name = s.name) = some s := by
      cases hfind : all.find? (·.name = s.name) with
      | none => simpa using List.find?_eq_none.mp hfind s hs
      | some t =>
        have hname : t.name = s.name := by simpa using List.find?_some hfind
        rw [List.inj_on_of_nodup_map hnames (List.mem_of_find?_eq_some hfind) hs hname]
    rw [List.foldlM_cons, readMember, hfind]
    show (s.read v r >>= fun r => ms.foldlM (readMember all) r) = .ok r₂
    rw [hread]
    exact ih hslots
  | leftOut _ _ ih => exact ih (List.forall_mem_cons.mp hslots).2

end Written

/-- What is written for a record is read as it, in whatever order it stands. -/
theorem ofMembers_of_written (hslots : Lawful slots) {start r : ρ} {ms ns : List (String × Json)}
    (h : Written slots start ms r) (hperm : ms.Perm ns) : ofMembers slots start ns = .ok r := by
  have hdistinct : DistinctNames ms := h.names_sublist.nodup hslots.distinct
  rw [← ofMembers_perm hslots.commute hperm hdistinct, ofMembers_eq_ok_iff hdistinct]
  exact ⟨h.foldlM_readMember hslots.distinct fun _ hs => hs, h.name_mem⟩

/-- So is its sorted view, in which the members stand in the order of their names. -/
theorem ofJson_sorted {origin : Json.Origin} {shape : String} (hslots : Lawful slots) {start r : ρ}
    {ms : List (String × Json)} (h : Written slots start (Json.sortedValues ms) r) :
    ofJson origin shape slots start (Json.obj ms).sorted = .ok r := by
  have hdistinct : DistinctNames (Json.sortedValues ms) := h.names_sublist.nodup hslots.distinct
  exact ofMembers_of_written hslots h (Json.perm_sortMembers hdistinct).symm

end Record

/-! ## Lists and what may be missing -/

namespace Json

/-- A field that may be absent is read like one that may not, unless it is null. -/
theorem asOption_eq_ok {α : Type} {read : Json → Except DecodeError α} {j : Json} {a : α}
    (hnull : j ≠ .null) (h : read j = .ok a) : j.asOption read = .ok (some a) := by
  cases j with
  | null => exact absurd rfl hnull
  | _ => exact congrArg (Except.map some) h

/-- A list is read element by element, so it is read when its elements are. -/
theorem mapM_encoded {α : Type} {read : Json → Except DecodeError α} {encode : α → Json}
    {as : List α} (h : ∀ a ∈ as, read (encode a) = .ok a) :
    (as.map encode).mapM read = .ok as := by
  induction as with
  | nil => rfl
  | cons a rest ih =>
    obtain ⟨ha, hrest⟩ := List.forall_mem_cons.mp h
    rw [List.map_cons, List.mapM_cons, ha, ih hrest]
    rfl

/-- A list is read from its sorted view when its elements are. -/
theorem asListOf_sorted {α : Type} {read : Json → Except DecodeError α} {encode : α → Json}
    {as : List α} (h : ∀ a ∈ as, read (encode a).sorted = .ok a) :
    asListOf read (Json.arr (as.map encode)).sorted = .ok as := by
  rw [sorted_arr, List.map_map]
  exact mapM_encoded h

/-- A list of texts is read from its sorted view. -/
theorem asTexts_sorted (xs : List String) : asTexts (ofStrings xs).sorted = .ok xs :=
  asListOf_sorted fun _ _ => rfl

end Json

end SyntheticTables
