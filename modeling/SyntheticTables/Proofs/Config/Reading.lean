/-
  The members of a node are read in any order.

  A node given as an object is read when its one tag names a kind, each other member gives an
  argument for a parameter of that kind, no parameter gets two and none is missing that is needed
  (`Node.ofPart_obj_eq_ok_iff`).  Nothing in this depends on where a member stands, and the node is
  put together by looking its arguments up (`Arguments.toNode_congr`), so rearranging the members
  changes nothing (`Node.ofPart_perm`).
-/
import Mathlib.Data.List.Forall2
import SyntheticTables.Config.Document
import SyntheticTables.Proofs.Checks
import SyntheticTables.Proofs.Json.Sorted

namespace SyntheticTables

/-! ## The tag -/

namespace Kind

variable {origin : Json.Origin}

/-- Behind a tag there must be no other tag. -/
theorem ofMembers_some_eq_ok_iff {met k : Kind} {ms : List (String × Json)} :
    ofMembers origin (some met) ms = .ok k ↔ met = k ∧ ms.filter (·.1 = "type") = [] := by
  induction ms with
  | nil => simp [ofMembers]
  | cons m rest ih =>
    obtain ⟨name, value⟩ := m
    by_cases h : name = "type"
    · simp [ofMembers, h]
    · simp [ofMembers, h, ih]

/-- There has to be exactly one tag, and it has to name the kind.  Where it stands among the members
    does not matter, which is why it is found by a filter here. -/
theorem ofMembers_eq_ok_iff {k : Kind} {ms : List (String × Json)} :
    ofMembers origin none ms = .ok k ↔
      ∃ tag, ms.filter (·.1 = "type") = [("type", tag)] ∧ ofJson origin tag = .ok k := by
  induction ms with
  | nil => simp [ofMembers]
  | cons m rest ih =>
    obtain ⟨name, value⟩ := m
    by_cases h : name = "type"
    · subst h
      simp only [ofMembers, if_true, bind_eq_ok_iff, ofMembers_some_eq_ok_iff, List.filter_cons,
        decide_true]
      constructor
      · rintro ⟨k', hk, rfl, hrest⟩
        exact ⟨value, by rw [hrest], hk⟩
      · rintro ⟨tag, hfilter, hk⟩
        obtain ⟨hvalue, hrest⟩ := List.cons.inj hfilter
        cases hvalue
        exact ⟨k, hk, rfl, hrest⟩
    · simp [ofMembers, h, ih]

/-- Where the tag stands does not matter. -/
theorem ofMembers_perm {k : Kind} {ms ns : List (String × Json)} (h : ms.Perm ns) :
    ofMembers origin none ms = .ok k ↔ ofMembers origin none ns = .ok k := by
  have hfilter := h.filter (·.1 = "type")
  have htags : ∀ tag : Json, ms.filter (·.1 = "type") = [("type", tag)] ↔
      ns.filter (·.1 = "type") = [("type", tag)] := by
    intro tag
    rw [← List.perm_singleton, ← List.perm_singleton]
    exact ⟨fun hms => hfilter.symm.trans hms, fun hns => hfilter.trans hns⟩
  rw [ofMembers_eq_ok_iff, ofMembers_eq_ok_iff]
  simp only [htags]

end Kind

/-! ## Arguments -/

namespace Arguments

/-- An argument is not found if neither the first is the one nor any later one. -/
theorem find?_cons_eq_none_iff {n name : String} {a : Argument} {args : Arguments} :
    find? ((n, a) :: args) name = none ↔ n ≠ name ∧ args.find? name = none := by
  unfold find?
  rw [List.find?_cons]
  by_cases h : n = name <;> simp [h]

/-- In which order the arguments stand does not matter for looking one up. -/
theorem find?_eq_of_perm {args args' : Arguments} (h : args.Perm args')
    (hdistinct : DistinctNames args) (name : String) : args.find? name = args'.find? name := by
  unfold find?
  rw [Json.find?_perm hdistinct h]

/-- A node is put together by looking its arguments up. -/
theorem toNode_congr {args args' : Arguments} (h : ∀ name, args.find? name = args'.find? name)
    (k : Kind) : args.toNode k = args'.toNode k := by
  cases k with
  | words joiner => cases joiner <;> simp only [toNode, size, h]
  | _ =>
    simp only [toNode, int, count, float, maybeFloat, flag, size, intRange, floatRange, style, node,
      nodes, fieldGroups, h]

end Arguments

namespace Node

/-- In which order the arguments stand does not matter for the node they are put together to. -/
theorem ofArguments_perm {args args' : Arguments} (h : args.Perm args')
    (hdistinct : DistinctNames args) (k : Kind) : ofArguments k args = ofArguments k args' := by
  have hfind := Arguments.find?_eq_of_perm h hdistinct
  unfold ofArguments Kind.missing?
  simp only [hfind, Arguments.toNode_congr hfind]

/-- Reads a list of nodes. -/
def ofList : Json → Except DecodeError (List Node)
  | .arr items => ofParts items
  | other => notNodes other

/-- Reads an argument. -/
def readArgument (t : ParamType) (value : Json) : Except DecodeError Argument :=
  t.read value (fun _ => ofPart value) fun _ => ofList value

end Node

/-- The member gives this argument, under the name of the parameter it is for. -/
def Kind.Reads (k : Kind) (m : String × Json) (a : String × Argument) : Prop :=
  ∃ p, k.paramNamed m.1 = .ok p ∧ p.name = a.1 ∧ Node.readArgument p.type m.2 = .ok a.2

namespace Node

/-- The tag is no argument, so it is passed over. -/
theorem readMembers_tag {k : Kind} {args : Arguments} {value : Json}
    {rest : List (String × Json)} :
    readMembers k args (("type", value) :: rest) = readMembers k args rest :=
  if_pos rfl

/-- Any other member has to name a parameter that got no argument before. -/
theorem readMembers_cons {k : Kind} {args : Arguments} {name : String} {value : Json}
    {rest : List (String × Json)} (h : name ≠ "type") :
    readMembers k args ((name, value) :: rest) = (do
      let p ← k.paramNamed name
      if (args.find? p.name).isSome then .error (.duplicateField p.name)
      else
        let arg ← readArgument p.type value
        readMembers k ((p.name, arg) :: args) rest) := by
  -- the list of nodes is looked for in the value itself
  cases value with
  | _ => exact if_neg h

/-- Reading members adds an argument for each of them but the tag, no two for one parameter.  By
    induction on the members, for any arguments met before. -/
theorem readMembers_eq_ok_iff {k : Kind} {ms : List (String × Json)} :
    ∀ {args args' : Arguments}, readMembers k args ms = .ok args' ↔
      ∃ new, List.Forall₂ k.Reads (ms.filter (·.1 ≠ "type")) new ∧ DistinctNames new ∧
        (∀ a ∈ new, args.find? a.1 = none) ∧ args' = new.reverse ++ args := by
  -- the arguments met so far grow at the front, so the new ones come out reversed
  induction ms with
  | nil =>
    intro args args'
    have hread : readMembers k args [] = .ok args := rfl
    simp [hread, DistinctNames, eq_comm]
  | cons m rest ih =>
    intro args args'
    obtain ⟨name, value⟩ := m
    by_cases h : name = "type"
    · subst h
      rw [readMembers_tag, ih]
      simp
    · rw [readMembers_cons h, bind_eq_ok_iff]
      simp only [refuse_eq_ok_iff, bind_eq_ok_iff, ih, List.filter_cons, h, ne_eq,
        not_false_eq_true, decide_true, if_true, List.forall₂_cons_left_iff]
      constructor
      · rintro ⟨p, hp, hfree, arg, harg, new, hnew, hdistinct, hnone, rfl⟩
        simp only [Arguments.find?_cons_eq_none_iff] at hnone
        refine ⟨(p.name, arg) :: new, ⟨(p.name, arg), new, ⟨p, hp, rfl, harg⟩, hnew, rfl⟩,
          List.nodup_cons.mpr ⟨?_, hdistinct⟩, ?_, by simp⟩
        · intro hmem
          obtain ⟨a, ha, hname⟩ := List.mem_map.mp hmem
          exact (hnone a ha).1 hname.symm
        · exact List.forall_mem_cons.mpr ⟨by simpa using hfree, fun a ha => (hnone a ha).2⟩
      · rintro ⟨_, ⟨a, new, ⟨p, hp, hname, harg⟩, hnew, rfl⟩, hdistinct, hnone, rfl⟩
        obtain ⟨hfresh, hdistinct⟩ := List.nodup_cons.mp hdistinct
        obtain ⟨hfree, hnone⟩ := List.forall_mem_cons.mp hnone
        refine ⟨p, hp, by simp [hname, hfree], a.2, harg, new, hnew, hdistinct, ?_, by simp [hname]⟩
        intro b hb
        refine Arguments.find?_cons_eq_none_iff.mpr ⟨?_, hnone b hb⟩
        rw [hname]
        intro heq
        exact hfresh (List.mem_map.mpr ⟨b, hb, heq.symm⟩)

/-- When a node given as an object is read: its tag names a kind, its other members give arguments
    for different parameters of that kind, and no argument is missing. -/
theorem ofPart_obj_eq_ok_iff {ms : List (String × Json)} {n : Node} :
    ofPart (.obj ms) = .ok n ↔ ∃ k args, Kind.ofMembers .tagged none ms = .ok k ∧
      List.Forall₂ k.Reads (ms.filter (·.1 ≠ "type")) args ∧ DistinctNames args ∧
      ofArguments k args = .ok n := by
  have hpart : ofPart (.obj ms) = (do
      let k ← Kind.ofMembers .tagged none ms
      ofArguments k (← readMembers k [] ms)) := rfl
  simp only [hpart, bind_eq_ok_iff, readMembers_eq_ok_iff, List.append_nil]
  constructor
  · rintro ⟨k, hk, _, ⟨args, hargs, hdistinct, -, rfl⟩, hn⟩
    rw [← ofArguments_perm (List.reverse_perm args).symm hdistinct] at hn
    exact ⟨k, args, hk, hargs, hdistinct, hn⟩
  · rintro ⟨k, args, hk, hargs, hdistinct, hn⟩
    rw [ofArguments_perm (List.reverse_perm args).symm hdistinct] at hn
    exact ⟨k, hk, _, ⟨args, hargs, hdistinct, fun _ _ => rfl, rfl⟩, hn⟩

/-- In which order the members stand does not matter for what a node is read as.  The same members
    give the same arguments in another order, and those are sorted into the slots by their names. -/
theorem ofPart_perm {ms ns : List (String × Json)} (h : ms.Perm ns) {n : Node} :
    ofPart (.obj ms) = .ok n ↔ ofPart (.obj ns) = .ok n := by
  have hstep : ∀ {ms ns : List (String × Json)}, ms.Perm ns →
      ofPart (.obj ms) = .ok n → ofPart (.obj ns) = .ok n := by
    intro ms ns h hread
    obtain ⟨k, args, hk, hargs, hdistinct, hn⟩ := ofPart_obj_eq_ok_iff.mp hread
    obtain ⟨args', hargs', hperm⟩ := List.perm_comp_forall₂ (h.symm.filter (·.1 ≠ "type")) hargs
    -- the same members give the same arguments, in another order
    refine ofPart_obj_eq_ok_iff.mpr ⟨k, args', (Kind.ofMembers_perm h).mp hk, hargs', ?_, ?_⟩
    · exact hdistinct.perm hperm.symm
    · rw [ofArguments_perm hperm (hdistinct.perm hperm.symm)]
      exact hn
  exact ⟨hstep h, hstep h.symm⟩

end Node

end SyntheticTables
