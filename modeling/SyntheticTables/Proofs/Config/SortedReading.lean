/-
  A document and its sorted view are read as the same configuration.

  Where no name stands twice in an object, sorting leaves the members as they are but for their
  order, and that does not matter for what a node is read as (`Node.ofPart_perm`).  By induction on
  the document this holds at every depth, for nodes and for the values of all parameters
  (`Node.readAlike_sorted`).  Only results are compared: which failure comes first does depend on the
  order.
-/
import SyntheticTables.Proofs.Config.Reading

namespace SyntheticTables

namespace Json

/-! ## Documents without repeated names -/

mutual

/-- In no object of the document a name stands twice, at whatever depth. -/
def NoRepeats : Json → Prop
  | .arr items => NoItemRepeats items
  | .obj members => DistinctNames members ∧ NoMemberRepeats members
  | _ => True
  termination_by structural j => j

/-- The same for the elements of a list. -/
def NoItemRepeats : List Json → Prop
  | [] => True
  | item :: rest => NoRepeats item ∧ NoItemRepeats rest
  termination_by structural items => items

/-- The same for the values in an object. -/
def NoMemberRepeats : List (String × Json) → Prop
  | [] => True
  | (_, value) :: rest => NoRepeats value ∧ NoMemberRepeats rest
  termination_by structural members => members

end

mutual

/-- Going through a document decides whether a name stands twice in it. -/
def decidableNoRepeats : (j : Json) → Decidable j.NoRepeats
  | .null | .bool _ | .num _ | .str _ => isTrue trivial
  | .arr items => decidableNoItemRepeats items
  | .obj members =>
    @instDecidableAnd _ _ (inferInstanceAs (Decidable (members.map (·.1)).Nodup))
      (decidableNoMemberRepeats members)
  termination_by structural j => j

/-- The same for the elements of a list. -/
def decidableNoItemRepeats : (items : List Json) → Decidable (NoItemRepeats items)
  | [] => isTrue trivial
  | item :: rest =>
    @instDecidableAnd _ _ (decidableNoRepeats item) (decidableNoItemRepeats rest)
  termination_by structural items => items

/-- The same for the values in an object. -/
def decidableNoMemberRepeats : (members : List (String × Json)) →
    Decidable (NoMemberRepeats members)
  | [] => isTrue trivial
  | (_, value) :: rest =>
    @instDecidableAnd _ _ (decidableNoRepeats value) (decidableNoMemberRepeats rest)
  termination_by structural members => members

end

instance (j : Json) : Decidable j.NoRepeats := decidableNoRepeats j

/-! ## Objects -/

/-- Sorting what is inside the members keeps their names. -/
theorem distinctNames_sortedValues {ms : List (String × Json)} (h : DistinctNames ms) :
    DistinctNames (sortedValues ms) := by
  rw [sortedValues_eq_map, DistinctNames, List.map_map]
  exact h

/-- The sorted view of an object has the sorted members, in another order. -/
theorem exists_sorted_obj {ms : List (String × Json)} (h : DistinctNames ms) :
    ∃ ns, (obj ms).sorted = .obj ns ∧ ns.Perm (ms.map fun m => (m.1, m.2.sorted)) := by
  refine ⟨sortMembers (sortedValues ms), rfl, ?_⟩
  rw [← sortedValues_eq_map]
  exact perm_sortMembers (distinctNames_sortedValues h)

/-! ## Simple readers -/

/-- A reader that takes neither lists nor objects reads the same from the sorted view, since all
    else stays as it is. -/
theorem read_sorted_iff {α : Type} {read : Json → Except DecodeError α}
    (harr : ∀ items a, read (.arr items) ≠ .ok a) (hobj : ∀ ms a, read (.obj ms) ≠ .ok a)
    (j : Json) (a : α) : read j = .ok a ↔ read j.sorted = .ok a := by
  cases j with
  | arr items =>
    rw [sorted_arr]
    exact iff_of_false (harr _ a) (harr _ a)
  | obj ms => exact iff_of_false (hobj _ a) (hobj _ a)
  | _ => exact Iff.rfl

/-- Whether a value stands for nothing more does not depend on the order of its members: only an
    empty object does. -/
theorem isUnit_sorted {j : Json} (h : j.NoRepeats) : isUnit .tagged j.sorted = isUnit .tagged j := by
  cases j with
  | obj ms =>
    obtain ⟨ns, hsorted, hperm⟩ := exists_sorted_obj h.1
    rw [hsorted]
    cases ms with
    | nil =>
      rw [List.map_nil, List.perm_nil] at hperm
      rw [hperm]
    | cons m rest =>
      cases ns with
      | nil => cases List.nil_perm.mp hperm
      | cons n others => rfl
  | _ => rfl

/-- A choice may be an object with a single member, which names it. -/
theorem asChoice_member_iff {α : Type} {origin : Origin} {choices : List (String × α)}
    {name : String} {value : Json} {a : α} :
    asChoice origin choices (.obj [(name, value)]) = .ok a ↔
      choiceNamed choices name = .ok a ∧ isUnit origin value = true := by
  show (do
    let a ← choiceNamed choices name
    if isUnit origin value then .ok a else .error (.invalidType (.of value) "unit")) = .ok a ↔ _
  rw [bind_eq_ok_iff]
  by_cases hunit : isUnit origin value = true
  · simp [hunit]
  · simp [hunit]

/-- For choices the order of members never matters: only an object with one member names a choice,
    and that stays as it is when its members are sorted. -/
theorem asChoice_obj_sorted {α : Type} {choices : List (String × α)} {ms : List (String × Json)}
    (h : NoRepeats (.obj ms)) (a : α) :
    asChoice .tagged choices (.obj ms) = .ok a ↔
      asChoice .tagged choices (Json.obj ms).sorted = .ok a := by
  obtain ⟨ns, hsorted, hperm⟩ := exists_sorted_obj h.1
  rw [hsorted]
  cases ms with
  | nil =>
    rw [List.map_nil, List.perm_nil] at hperm
    rw [hperm]
  | cons m rest =>
    cases rest with
    | nil =>
      obtain ⟨name, value⟩ := m
      rw [List.map_singleton, List.perm_singleton] at hperm
      rw [hperm, asChoice_member_iff, asChoice_member_iff, isUnit_sorted h.2.1]
    | cons m' rest =>
      -- two members or more are no choice in either order
      have hlength := hperm.length_eq
      cases ns with
      | nil => cases hlength
      | cons n others =>
        cases others with
        | nil => cases hlength
        | cons n' others => exact iff_of_false nofun nofun

end Json

open Json (NoRepeats NoItemRepeats NoMemberRepeats)

/-! ## Simple arguments -/

/-- Counts are read alike. -/
theorem asUInt64_sorted (j : Json) (n : UInt64) : j.asUInt64 = .ok n ↔ j.sorted.asUInt64 = .ok n :=
  Json.read_sorted_iff nofun nofun j n

/-- Two counts are a range. -/
theorem SizeSpec.ofJson_pair_iff {a b : Json} {s : SizeSpec} :
    SizeSpec.ofJson (.arr [a, b]) = .ok s ↔ ∃ min max, a.asUInt64 = .ok min ∧
      b.asUInt64 = .ok max ∧ SizeSpec.range min max = s := by
  simp only [SizeSpec.ofJson]
  cases a.asUInt64 with
  | error e => simp
  | ok min =>
    cases b.asUInt64 with
    | error e => simp
    | ok max => simp

/-- Sizes are read alike: a size is a count or a list of two counts, and neither has members to be
    sorted. -/
theorem SizeSpec.ofJson_sorted (j : Json) (s : SizeSpec) :
    SizeSpec.ofJson j = .ok s ↔ SizeSpec.ofJson j.sorted = .ok s := by
  cases j with
  | arr items =>
    rw [Json.sorted_arr]
    rcases items with _ | ⟨a, _ | ⟨b, _ | ⟨c, rest⟩⟩⟩
    · exact Iff.rfl
    · exact iff_of_false nofun nofun
    · rw [List.map_cons, List.map_cons, List.map_nil, ofJson_pair_iff, ofJson_pair_iff]
      simp only [asUInt64_sorted a, asUInt64_sorted b]
    · exact iff_of_false nofun nofun
  | obj ms => exact iff_of_false nofun nofun
  | _ => exact Iff.rfl

section Pairs

variable {α : Type} {name : String} {read : Json → Except DecodeError α}

/-- Lists are pairs when they have two elements and both can be read. -/
theorem pairOfJson_arr_iff {items : List Json} {p : α × α} :
    pairOfJson name read (.arr items) = .ok p ↔
      ∃ a b x y, items = [a, b] ∧ read a = .ok x ∧ read b = .ok y ∧ (x, y) = p := by
  rcases items with _ | ⟨a, _ | ⟨b, rest⟩⟩
  · exact iff_of_false nofun (by simp)
  · refine iff_of_false ?_ (by simp)
    intro h
    obtain ⟨_, -, h⟩ := bind_eq_ok_iff.mp h
    cases h
  · show (read a >>= fun x => read b >>= fun y => if rest.isEmpty then Except.ok (x, y)
      else .error (.invalidLength (a :: b :: rest).length "2 elements in sequence")) = .ok p ↔ _
    simp only [bind_eq_ok_iff]
    cases rest with
    | nil => simp
    | cons c rest => simp

variable (name) in
/-- Pairs are read alike if their elements are, since the order in a list is kept.  No object is a
    pair, so there are no members whose order could matter. -/
theorem pairOfJson_sorted (hread : ∀ j a, read j = .ok a ↔ read j.sorted = .ok a) (j : Json)
    (p : α × α) : pairOfJson name read j = .ok p ↔ pairOfJson name read j.sorted = .ok p := by
  cases j with
  | arr items =>
    rw [Json.sorted_arr, pairOfJson_arr_iff, pairOfJson_arr_iff]
    constructor
    · rintro ⟨a, b, x, y, rfl, ha, hb, hp⟩
      exact ⟨a.sorted, b.sorted, x, y, rfl, (hread a x).mp ha, (hread b y).mp hb, hp⟩
    · rintro ⟨a', b', x, y, hitems, ha, hb, hp⟩
      rcases items with _ | ⟨a, _ | ⟨b, rest⟩⟩
      · cases hitems
      · cases hitems
      · rw [List.map_cons, List.map_cons, List.cons.injEq, List.cons.injEq] at hitems
        obtain ⟨rfl, rfl, hrest⟩ := hitems
        rw [List.map_eq_nil_iff.mp hrest]
        exact ⟨a, b, x, y, rfl, (hread a x).mpr ha, (hread b y).mpr hb, hp⟩
  | obj ms => exact iff_of_false nofun nofun
  | _ => exact Iff.rfl

end Pairs

namespace Node

/-- The tag of a root that is an object has to be found among its members. -/
theorem checkRootTag_obj_iff {ms : List (String × Json)} :
    checkRootTag (.obj ms) = .ok () ↔ ∃ k, Kind.ofMembers .document none ms = .ok k := by
  show (Kind.ofMembers .document none ms).map (fun _ => ()) = .ok () ↔ _
  rw [map_eq_ok_iff]
  simp

/-- The tag of a root that is a list is its first element. -/
theorem checkRootTag_arr_iff {tag : Json} {items : List Json} :
    checkRootTag (.arr (tag :: items)) = .ok () ↔ ∃ k, Kind.ofJson .document tag = .ok k := by
  show (Kind.ofJson .document tag).map (fun _ => ()) = .ok () ↔ _
  rw [map_eq_ok_iff]
  simp

/-- A list of nodes or one node, in this order. -/
theorem readArgument_fieldGroups_iff {j : Json} {a : Argument} :
    readArgument .fieldGroups j = .ok a ↔
      (∃ ns, ofList j = .ok ns ∧ .fieldGroups (.many ns) = a) ∨
      ((∀ ns, ofList j ≠ .ok ns) ∧ ∃ n, ofPart j = .ok n ∧ .fieldGroups (.one n) = a) := by
  simp only [readArgument, ParamType.read]
  cases ofList j with
  | ok ns => simp
  | error e =>
    cases ofPart j with
    | ok n => simp
    | error e' => simp

/-- Two documents that are read as the same wherever one of them is read: as a node, as a list of
    nodes, and as an argument of any type. -/
structure ReadAlike (j j' : Json) : Prop where
  part : ∀ n, ofPart j = .ok n ↔ ofPart j' = .ok n
  list : ∀ ns, ofList j = .ok ns ↔ ofList j' = .ok ns
  argument : ∀ t a, readArgument t j = .ok a ↔ readArgument t j' = .ok a

/-- The style of a missing value is a choice that may be absent. -/
theorem asStyle_sorted {j : Json} (h : NoRepeats j) (s : Option MissingStyle) :
    j.asOption (MissingStyle.ofJson .tagged) = .ok s ↔
      j.sorted.asOption (MissingStyle.ofJson .tagged) = .ok s := by
  cases j with
  | arr items => exact iff_of_false nofun nofun
  | obj ms => exact map_eq_ok_congr (Json.asChoice_obj_sorted h)
  | _ => exact Iff.rfl

/-- Arguments are read alike once the nodes in them are.  The cases are the types of parameters;
    only the last three hold nodes. -/
theorem readAlike_of_nodes {j : Json} (h : NoRepeats j)
    (hpart : ∀ n, ofPart j = .ok n ↔ ofPart j.sorted = .ok n)
    (hlist : ∀ ns, ofList j = .ok ns ↔ ofList j.sorted = .ok ns) : ReadAlike j j.sorted where
  part := hpart
  list := hlist
  argument t a := by
    cases t with
    | int => exact map_eq_ok_congr (Json.read_sorted_iff nofun nofun j)
    | count => exact map_eq_ok_congr (Json.read_sorted_iff nofun nofun j)
    | float => exact map_eq_ok_congr (Json.read_sorted_iff nofun nofun j)
    | maybeFloat =>
      have hread : ∀ j a, Json.asOption Json.asFloat j = .ok a ↔
          Json.asOption Json.asFloat j.sorted = .ok a := Json.read_sorted_iff nofun nofun
      exact map_eq_ok_congr (hread j)
    | flag => exact map_eq_ok_congr (Json.read_sorted_iff nofun nofun j)
    | size => exact map_eq_ok_congr (SizeSpec.ofJson_sorted j)
    | intRange =>
      have hread : ∀ j a, Json.asInt64 j = .ok a ↔ Json.asInt64 j.sorted = .ok a :=
        Json.read_sorted_iff nofun nofun
      exact map_eq_ok_congr fun r => map_eq_ok_congr (pairOfJson_sorted "IntRange" hread j)
    | floatRange =>
      have hread : ∀ j a, Json.asFloat j = .ok a ↔ Json.asFloat j.sorted = .ok a :=
        Json.read_sorted_iff nofun nofun
      exact map_eq_ok_congr fun r => map_eq_ok_congr (pairOfJson_sorted "FloatRange" hread j)
    | style => exact map_eq_ok_congr (asStyle_sorted h)
    | node => exact map_eq_ok_congr hpart
    | nodes => exact map_eq_ok_congr hlist
    | fieldGroups =>
      rw [readArgument_fieldGroups_iff, readArgument_fieldGroups_iff]
      simp only [hpart, hlist, ne_eq]

/-! ## Lists of nodes and of arguments -/

/-- Arguments in a list are read in the order of the parameters. -/
theorem readItems_cons {k : Kind} {total index : Nat} {p : Param} {params : List Param}
    {value : Json} {rest : List Json} :
    readItems k total index (p :: params) (value :: rest) = (do
      let arg ← readArgument p.type value
      return (p.name, arg) :: (← readItems k total (index + 1) params rest)) := by
  -- the list of nodes is looked for in the value itself
  cases value with
  | _ => rfl

section Items

variable {items : List Json} (halike : ∀ j ∈ items, ReadAlike j j.sorted)

include halike

/-- A list of nodes is read alike if its elements are. -/
theorem ofParts_sorted (ns : List Node) :
    ofParts items = .ok ns ↔ ofParts (items.map Json.sorted) = .ok ns := by
  induction items generalizing ns with
  | nil => exact Iff.rfl
  | cons j rest ih =>
    have hrest := ih fun j hj => halike j (List.mem_cons_of_mem _ hj)
    rw [List.map_cons, ofParts, ofParts]
    simp only [bind_eq_ok_iff, (halike j List.mem_cons_self).part, hrest]

/-- A list of arguments is read alike if its elements are.  By induction on the list, with any
    parameters left, because each element takes the next parameter away. -/
theorem readItems_sorted {k : Kind} {total : Nat} : ∀ (index : Nat) (params : List Param)
    (args : Arguments), readItems k total index params items = .ok args ↔
      readItems k total index params (items.map Json.sorted) = .ok args := by
  induction items with
  | nil => exact fun _ _ _ => Iff.rfl
  | cons j rest ih =>
    intro index params args
    have hrest := ih fun j hj => halike j (List.mem_cons_of_mem _ hj)
    cases params with
    | nil => exact iff_of_false nofun nofun
    | cons p params =>
      rw [List.map_cons, readItems_cons, readItems_cons]
      simp only [bind_eq_ok_iff, (halike j List.mem_cons_self).argument, hrest]

/-- A node that is written as a list is read alike: its tag comes first and is neither a list nor an
    object. -/
theorem ofPart_arr_sorted (n : Node) :
    ofPart (.arr items) = .ok n ↔ ofPart (Json.arr items).sorted = .ok n := by
  rw [Json.sorted_arr]
  cases items with
  | nil => exact Iff.rfl
  | cons tag rest =>
    have hrest : ∀ k args, readItems k rest.length 0 k.params rest = .ok args ↔
        readItems k rest.length 0 k.params (rest.map Json.sorted) = .ok args :=
      fun k => readItems_sorted (fun j hj => halike j (List.mem_cons_of_mem _ hj)) 0 k.params
    have hpart : ∀ (tag : Json) (rest : List Json), ofPart (.arr (tag :: rest)) = (do
        let k ← Kind.ofJson .tagged tag
        return (← readItems k rest.length 0 k.params rest).toNode k) := fun _ _ => rfl
    have htag : ∀ k, Kind.ofJson .tagged tag = .ok k ↔ Kind.ofJson .tagged tag.sorted = .ok k :=
      Json.read_sorted_iff nofun nofun tag
    rw [List.map_cons, hpart, hpart, List.length_map]
    simp only [bind_eq_ok_iff, htag, hrest]

end Items

/-! ## Members -/

section Members

variable {ms : List (String × Json)}

/-- The tag of a node is found alike in members whose values are sorted, since a tag is no list and
    no object and is not changed by that. -/
theorem ofMembers_map_sorted {origin : Json.Origin} {k : Kind} (ms : List (String × Json)) :
    ∀ met, Kind.ofMembers origin met ms = .ok k ↔
      Kind.ofMembers origin met (ms.map fun m => (m.1, m.2.sorted)) = .ok k := by
  induction ms with
  | nil => exact fun _ => Iff.rfl
  | cons m rest ih =>
    intro met
    obtain ⟨name, tag⟩ := m
    have htag : ∀ k, Kind.ofJson origin tag = .ok k ↔ Kind.ofJson origin tag.sorted = .ok k :=
      Json.read_sorted_iff nofun nofun tag
    by_cases hname : name = "type"
    · cases met with
      | some _ => simp only [List.map_cons, Kind.ofMembers, if_pos hname]
      | none =>
        simp only [List.map_cons, Kind.ofMembers, if_pos hname, bind_eq_ok_iff, htag, ih]
    · simp only [List.map_cons, Kind.ofMembers, if_neg hname]
      exact ih met

/-- Members are read as the same arguments if their values are read alike. -/
theorem reads_sorted {k : Kind} (halike : ∀ m ∈ ms, ReadAlike m.2 m.2.sorted) (args : Arguments) :
    List.Forall₂ k.Reads ms args ↔
      List.Forall₂ k.Reads (ms.map fun m => (m.1, m.2.sorted)) args := by
  induction ms generalizing args with
  | nil => exact Iff.rfl
  | cons m rest ih =>
    have hrest := ih fun m hm => halike m (List.mem_cons_of_mem _ hm)
    rw [List.map_cons, List.forall₂_cons_left_iff, List.forall₂_cons_left_iff]
    simp only [Kind.Reads, (halike m List.mem_cons_self).argument, hrest]

/-- A node that is written as an object is read alike: its members are another order of sorted
    ones. -/
theorem ofPart_obj_sorted (hdistinct : DistinctNames ms)
    (halike : ∀ m ∈ ms, ReadAlike m.2 m.2.sorted) (n : Node) :
    ofPart (.obj ms) = .ok n ↔ ofPart (Json.obj ms).sorted = .ok n := by
  obtain ⟨ns, hsorted, hperm⟩ := Json.exists_sorted_obj hdistinct
  rw [hsorted, ofPart_perm hperm, ofPart_obj_eq_ok_iff, ofPart_obj_eq_ok_iff, List.filter_map]
  have hfilter : ∀ m ∈ ms.filter (·.1 ≠ "type"), ReadAlike m.2 m.2.sorted := by
    intro m hm
    exact halike m (List.mem_filter.mp hm).1
  simp only [← ofMembers_map_sorted, ← reads_sorted hfilter, Function.comp_def]

end Members

/-! ## Documents -/

mutual

/-- Wherever a document without repeated names stands, its sorted view is read as the same.  By
    induction on the document, along with its elements and members. -/
theorem readAlike_sorted : ∀ j : Json, NoRepeats j → ReadAlike j j.sorted
  | .null, _ => ⟨fun _ => Iff.rfl, fun _ => Iff.rfl, fun _ _ => Iff.rfl⟩
  | .bool _, _ => ⟨fun _ => Iff.rfl, fun _ => Iff.rfl, fun _ _ => Iff.rfl⟩
  | .num _, _ => ⟨fun _ => Iff.rfl, fun _ => Iff.rfl, fun _ _ => Iff.rfl⟩
  | .str _, _ => ⟨fun _ => Iff.rfl, fun _ => Iff.rfl, fun _ _ => Iff.rfl⟩
  | .arr items, h => by
    have halike := readAlike_sorted_items items h
    refine readAlike_of_nodes h (ofPart_arr_sorted halike) ?_
    rw [Json.sorted_arr]
    exact ofParts_sorted halike
  | .obj ms, h => by
    have halike := readAlike_sorted_members ms h.2
    exact readAlike_of_nodes h (ofPart_obj_sorted h.1 halike) fun _ => iff_of_false nofun nofun

/-- The elements of a list, one by one. -/
theorem readAlike_sorted_items : ∀ items : List Json, NoItemRepeats items →
    ∀ j ∈ items, ReadAlike j j.sorted
  | [], _ => nofun
  | item :: rest, h => List.forall_mem_cons.mpr
    ⟨readAlike_sorted item h.1, readAlike_sorted_items rest h.2⟩

/-- The values in an object, one by one. -/
theorem readAlike_sorted_members : ∀ ms : List (String × Json), NoMemberRepeats ms →
    ∀ m ∈ ms, ReadAlike m.2 m.2.sorted
  | [], _ => nofun
  | (_, value) :: rest, h => List.forall_mem_cons.mpr
    ⟨readAlike_sorted value h.1, readAlike_sorted_members rest h.2⟩

end

/-- The tag of the root is read first, and alike: in a list it is the first element and stays there,
    and in an object it is found by its name. -/
theorem checkRootTag_sorted {j : Json} (h : NoRepeats j) :
    checkRootTag j = .ok () ↔ checkRootTag j.sorted = .ok () := by
  cases j with
  | arr items =>
    rw [Json.sorted_arr]
    cases items with
    | nil => exact Iff.rfl
    | cons tag rest =>
      rw [List.map_cons, checkRootTag_arr_iff, checkRootTag_arr_iff]
      exact exists_congr (Json.read_sorted_iff nofun nofun tag)
  | obj ms =>
    obtain ⟨ns, hsorted, hperm⟩ := Json.exists_sorted_obj h.1
    rw [hsorted, checkRootTag_obj_iff, checkRootTag_obj_iff]
    refine exists_congr fun k => ?_
    rw [Kind.ofMembers_perm hperm]
    exact ofMembers_map_sorted ms none
  | _ => exact Iff.rfl

/-- A document and its sorted view are the same configuration, if any.  Which error comes first may
    differ, so nothing is said about errors here. -/
theorem ofJson_sorted {j : Json} (h : NoRepeats j) (n : Node) :
    ofJson j = .ok n ↔ ofJson j.sorted = .ok n := by
  unfold ofJson
  rw [seq_eq_ok_iff, seq_eq_ok_iff, checkRootTag_sorted h, (readAlike_sorted j h).part]

end Node
end SyntheticTables
