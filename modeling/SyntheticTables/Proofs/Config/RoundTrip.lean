/-
  Configurations are read back.

  What is written for an argument is read as that argument (`Argument.readArgument_decoded`): a
  list of nodes is tried before a node, and no node is written as a list.  Since the members of a node
  are read in any order and nothing a node is made of stands under a name twice, a node is read from
  its decoded document as soon as the nodes right below it are; by induction every node is that makes
  sense, for its floats are finite.
-/
import SyntheticTables.Config.Load
import SyntheticTables.Proofs.Config.Arguments
import SyntheticTables.Proofs.Config.Reading
import SyntheticTables.Proofs.Json.Alike

namespace SyntheticTables

open Json (decoded)

/-! ## Parameters -/

namespace Kind

/-- Every kind is read back from its tag. -/
theorem ofJson_tag (origin : Json.Origin) (k : Kind) : ofJson origin (.str k.tag) = .ok k := by
  cases k with
  | words joiner => cases joiner <;> rfl
  | _ => rfl

/-- No two parameters have the same name, and none is called like the tag. -/
theorem params_distinct (k : Kind) : ("type" :: k.params.map (·.name)).Nodup := by
  cases k with
  | words joiner => cases joiner <;> decide
  | _ => decide

/-- Every parameter is found under its own name, which stands before its other names. -/
theorem paramNamed_name (k : Kind) : ∀ p ∈ k.params, k.paramNamed p.name = .ok p := by
  cases k <;> simp [params, missingParams, paramNamed, Param.names]

end Kind

/-! ## Arguments -/

namespace Node

/-- A list of nodes is written node by node. -/
theorem toJsons_eq_map (ns : List Node) : toJsons ns = ns.map toJson := by
  induction ns with
  | nil => rfl
  | cons n rest ih => rw [toJsons, ih, List.map_cons]

/-- A list of nodes is read back if each node is. -/
theorem ofParts_decoded {ns : List Node} (h : ∀ n ∈ ns, ofPart n.toJson.decoded = .ok n) :
    ofParts (ns.map fun n => n.toJson.decoded) = .ok ns := by
  induction ns with
  | nil => rfl
  | cons n rest ih =>
    obtain ⟨hn, hrest⟩ := List.forall_mem_cons.mp h
    rw [List.map_cons, ofParts, hn, ih hrest]
    rfl

/-- The same for the document of the list. -/
theorem ofList_decoded {ns : List Node} (h : ∀ n ∈ ns, ofPart n.toJson.decoded = .ok n) :
    ofList (Json.arr (toJsons ns)).decoded = .ok ns := by
  rw [Json.decoded_arr, toJsons_eq_map, List.map_map]
  exact ofParts_decoded h

/-- No node is written as a list. -/
theorem ofList_toJson (n : Node) : ofList n.toJson.decoded = notNodes n.toJson.decoded := by
  rw [toJson_eq]
  rfl

end Node

/-- What is written for an argument is read as that argument, if its floats are finite and the nodes
    in it are read back.  The cases are the types of parameters. -/
theorem Argument.readArgument_decoded (a : Argument) (hfloats : ∀ x ∈ a.floats, x.isFinite = true)
    (hnodes : ∀ n ∈ a.children, Node.ofPart n.toJson.decoded = .ok n) :
    Node.readArgument a.type a.toJson.decoded = .ok a := by
  cases a with
  | int i =>
    show ((Json.ofInt64 i).decoded.asInt64).map Argument.int = .ok (.int i)
    rw [Json.decoded_ofInt64, Json.asInt64_ofInt64]
    rfl
  | count n => rfl
  | float x =>
    show ((Json.ofFloat x).decoded.asFloat).map Argument.float = .ok (.float x)
    rw [Json.decoded_ofFloat (hfloats x List.mem_cons_self)]
    rfl
  -- an absent number is written as null, which no number is
  | maybeFloat x =>
    cases x with
    | none => rfl
    | some x =>
      show ((Json.ofFloat x).decoded.asOption Json.asFloat).map Argument.maybeFloat
        = .ok (.maybeFloat (some x))
      rw [Json.decoded_ofFloat (hfloats x List.mem_cons_self)]
      rfl
  | flag b => rfl
  | size s => cases s <;> rfl
  | intRange r =>
    show (IntRange.ofJson (Json.arr [.ofInt64 r.min, .ofInt64 r.max]).decoded).map Argument.intRange
      = .ok (.intRange r)
    simp only [Json.decoded_arr, List.map_cons, List.map_nil, Json.decoded_ofInt64, IntRange.ofJson,
      pairOfJson, Json.asInt64_ofInt64]
    rfl
  | floatRange r =>
    have hmin : r.min.isFinite = true := hfloats _ List.mem_cons_self
    have hmax : r.max.isFinite = true := hfloats _ (List.mem_cons_of_mem _ List.mem_cons_self)
    show (FloatRange.ofJson (Json.arr [.ofFloat r.min, .ofFloat r.max]).decoded).map
      Argument.floatRange = .ok (.floatRange r)
    simp only [Json.decoded_arr, List.map_cons, List.map_nil, Json.decoded_ofFloat hmin,
      Json.decoded_ofFloat hmax]
    rfl
  | style s =>
    cases s with
    | none => rfl
    | some s => cases s <;> rfl
  | node n =>
    show (Node.ofPart n.toJson.decoded).map Argument.node = .ok (.node n)
    rw [hnodes n List.mem_cons_self]
    rfl
  | nodes ns =>
    have hnodes : ∀ n ∈ ns, Node.ofPart n.toJson.decoded = .ok n := hnodes
    show (Node.ofList (Json.arr (Node.toJsons ns)).decoded).map Argument.nodes = .ok (.nodes ns)
    rw [Node.ofList_decoded hnodes]
    rfl
  | fieldGroups g =>
    unfold Node.readArgument type ParamType.read toJson
    cases g with
    | many ns =>
      have hnodes : ∀ n ∈ ns, Node.ofPart n.toJson.decoded = .ok n := hnodes
      have hmany : Node.groupsToJson (.many ns) = .arr (Node.toJsons ns) := rfl
      simp only [hmany, Node.ofList_decoded hnodes]
    | one n =>
      have hone : Node.groupsToJson (.one n) = n.toJson := rfl
      simp only [hone, Node.ofList_toJson, notNodes, hnodes n List.mem_cons_self]

/-! ## Nodes -/

namespace Node

/-- The decoded members of a node before they are put in order. -/
def decodedMembers (n : Node) : List (String × Json) :=
  ("type", .str n.tag) :: n.arguments.map fun a => (a.1, a.2.toJson.decoded)

/-- The names of a node's arguments are names of its parameters, in their order. -/
theorem names_arguments_sublist (n : Node) :
    (n.arguments.map (·.1)).Sublist (n.kind.params.map (·.name)) := by
  have hnames := n.arguments_sublist.map (·.1)
  rwa [List.map_map, List.map_map] at hnames

/-- No two members of a node have the same name, the tag included. -/
theorem distinct_decodedMembers (n : Node) : DistinctNames n.decodedMembers := by
  have hnames : (n.decodedMembers.map (·.1)).Sublist ("type" :: n.kind.params.map (·.name)) := by
    rw [decodedMembers, List.map_cons, List.map_map]
    exact n.names_arguments_sublist.cons_cons "type"
  exact hnames.nodup n.kind.params_distinct

/-- The decoded document of a node has its members in ascending order. -/
theorem toJson_decoded (n : Node) : n.toJson.decoded = .obj (Json.sortMembers n.decodedMembers) := by
  rw [toJson_eq, decoded, Json.decodedValues_eq_map, List.map_cons, List.map_map]
  rfl

/-- Only the tag is called like one, so the members without it are the arguments, and the members
    that are called so are the tag alone. -/
theorem filter_decodedMembers (n : Node) :
    n.decodedMembers.filter (·.1 = "type") = [("type", .str n.tag)] ∧
      n.decodedMembers.filter (·.1 ≠ "type")
        = n.arguments.map fun a => (a.1, a.2.toJson.decoded) := by
  have hne : ∀ m ∈ n.arguments.map fun a => (a.1, a.2.toJson.decoded), m.1 ≠ "type" := by
    intro m hm heq
    have hdistinct := List.nodup_cons.mp n.distinct_decodedMembers
    exact hdistinct.1 (List.mem_map.mpr ⟨m, hm, heq⟩)
  constructor
  · rw [decodedMembers, List.filter_cons_of_pos (by simp),
      List.filter_eq_nil_iff.mpr (by simpa using hne)]
  · rw [decodedMembers, List.filter_cons_of_neg (by simp),
      List.filter_eq_self.mpr (by simpa using hne)]

/-- The kind of a node is found among its members, whose one tag names it. -/
theorem ofMembers_decodedMembers (origin : Json.Origin) (n : Node) :
    Kind.ofMembers origin none n.decodedMembers = .ok n.kind := by
  rw [Kind.ofMembers_eq_ok_iff]
  exact ⟨_, n.filter_decodedMembers.1, Kind.ofJson_tag origin n.kind⟩

/-- A node is read back once the nodes right below it are.  Its arguments stand under the names of
    their parameters, each is read back by itself, and sorting the members makes no difference. -/
theorem ofPart_of_children {n : Node} (h : n.WellFormed)
    (hchildren : ∀ m ∈ n.children, ofPart m.toJson.decoded = .ok m) :
    ofPart n.toJson.decoded = .ok n := by
  have hreads : ∀ a ∈ n.arguments, n.kind.Reads (a.1, a.2.toJson.decoded) a := by
    -- an argument stands under the name of the parameter it is for
    intro a ha
    have hparam := n.arguments_sublist.subset (List.mem_map_of_mem ha)
    obtain ⟨p, hp, heq⟩ := List.mem_map.mp hparam
    obtain ⟨hname, htype⟩ := Prod.mk.inj heq
    refine ⟨p, hname ▸ n.kind.paramNamed_name p hp, hname, ?_⟩
    rw [htype]
    exact a.2.readArgument_decoded (h.isFinite a ha) fun m hm =>
      hchildren m (List.mem_flatMap.mpr ⟨a, ha, hm⟩)
  have hdistinct : DistinctNames n.arguments :=
    n.names_arguments_sublist.nodup (List.nodup_cons.mp n.kind.params_distinct).2
  have hforall : List.Forall₂ n.kind.Reads (n.decodedMembers.filter (·.1 ≠ "type")) n.arguments := by
    rw [n.filter_decodedMembers.2, List.forall₂_map_left_iff]
    exact List.forall₂_same.mpr hreads
  have hnode : ofArguments n.kind n.arguments = .ok n := by
    rw [ofArguments, n.missing?_arguments, n.toNode_arguments]
  -- sorting moves the tag among the arguments, which the reader does not notice
  rw [toJson_decoded, ofPart_perm (Json.perm_sortMembers n.distinct_decodedMembers),
    ofPart_obj_eq_ok_iff]
  exact ⟨n.kind, n.arguments, n.ofMembers_decodedMembers .tagged, hforall, hdistinct, hnode⟩

/-- A node that makes sense is read back from its decoded document.  By induction on the tree, with
    the nodes right below it read back already. -/
theorem ofPart_decoded (n : Node) (h : n.WellFormed) : ofPart n.toJson.decoded = .ok n := by
  induction n using children_induction with
  | h n ih => exact ofPart_of_children h fun m hm => ih m hm (h.children m hm)

/-- The tag of a root has to be a name, which it is. -/
theorem checkRootTag_decoded (n : Node) : checkRootTag n.toJson.decoded = .ok () := by
  have hkind := n.ofMembers_decodedMembers .document
  rw [← Kind.ofMembers_perm (Json.perm_sortMembers n.distinct_decodedMembers)] at hkind
  rw [toJson_decoded, checkRootTag, hkind]
  rfl

/-- A configuration that passes its check is parsed from its decoded document. -/
theorem parseValue_of_check {n : Node} (h : n.check = .ok ()) :
    parseValue n.toJson.decoded = .ok n := by
  have hread : ofJson n.toJson.decoded = .ok n := by
    rw [ofJson, n.checkRootTag_decoded]
    exact n.ofPart_decoded (check_eq_ok_iff.mp h)
  rw [parseValue, hread]
  show n.checked = .ok n
  rw [checked, h]

/-- Whatever was parsed passes the check. -/
theorem check_of_parseValue {d : Json} {n : Node} (h : parseValue d = .ok n) : n.check = .ok () := by
  obtain ⟨m, -, hm⟩ := bind_eq_ok_iff.mp h
  unfold checked at hm
  cases hcheck : m.check with
  | ok u =>
    rw [hcheck] at hm
    cases hm
    exact hcheck
  | error e =>
    rw [hcheck] at hm
    cases hm

/-- A configuration that passes its check is read back from its decoded document; so what a document
    was read as can be written, defaults and all, and read again. -/
theorem parseValue_toJson (n : Node) :
    (n.check = .ok () → parseValue n.toJson.decoded = .ok n) ∧
      ∀ d, parseValue d = .ok n → parseValue n.toJson.decoded = .ok n :=
  ⟨parseValue_of_check, fun _ h => parseValue_of_check (check_of_parseValue h)⟩

/-- From an object with the tag `table_resource` and no other member, the default table resource is
    read; it passes its check, and written with all its defaults it is read again. -/
theorem parseValue_toJson_defaultTableResource : defaultTableResource.check = .ok () ∧
    parseValue (.obj [("type", .str "table_resource")]) = .ok defaultTableResource ∧
    parseValue defaultTableResource.toJson.decoded = .ok defaultTableResource := by
  have hcheck : defaultTableResource.check = .ok () := rfl
  have hbare : parseValue (.obj [("type", .str "table_resource")]) = .ok defaultTableResource := rfl
  exact ⟨hcheck, hbare, (parseValue_toJson defaultTableResource).2 _ hbare⟩

end Node

end SyntheticTables
