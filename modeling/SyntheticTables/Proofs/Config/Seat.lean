/-
  Where the nodes of a tree stand.

  A seat is a place for a node: the way to it, the type that is expected there, and the node in it.
  The seats of a node are read off its arguments, in their order; a traversal goes through a seat
  and all seats below it, a node before what stands below it.  In the document of a tree the way to
  a seat leads to the document of the node in it (`Node.descend?_of_mem_descent`).
-/
import SyntheticTables.Proofs.Config.RoundTrip
import SyntheticTables.Proofs.Json.Pointer

namespace SyntheticTables

open Check (text optionalText metaSeq fieldSeq)

/-! ## Seats -/

/-- A node in its place, seen from a node above. -/
structure Seat where
  way : NodePath
  expected : TypeDesc
  node : Node

/-- The seat seen from further up. -/
def Seat.under (way : NodePath) (s : Seat) : Seat := { s with way := way ++ s.way }

/-- Nodes in a list, under their places. -/
def numbered (index : Nat) : List Node → List (NodePath × Node)
  | [] => []
  | n :: rest => ([.place index], n) :: numbered (index + 1) rest

/-- The nodes in an argument and the way on to each. -/
def Argument.places : Argument → List (NodePath × Node)
  | .node n => [([], n)]
  | .nodes ns => numbered 0 ns
  | .fieldGroups (.many ns) => numbered 0 ns
  | .fieldGroups (.one n) => [([], n)]
  | _ => []

/-- The type that a parameter expects of its nodes.  Combinators take nodes of any type, and every
    name is a text. -/
def Kind.expects : Kind → String → TypeDesc
  | .maybe, _ | .choice, _ | .seq, _ | .batch, _ | .unique, _ => .any
  | .fieldGroup, name => if name = "group_meta" then metaSeq else .fieldType
  | .likertFieldGroup, name =>
    if name = "group_meta" then metaSeq else .prim .integerFieldType
  | .tableSchema, name => if name = "fields" then fieldSeq else text
  | .tableResource, name =>
    if name = "description" then optionalText
    else if name = "table_schema" then .prim .tableSchema
    else text
  | .package, name =>
    if name = "description" then optionalText
    else if name = "resource" then .prim .tableResource
    else text
  | _, _ => text

namespace Node

/-- The nodes right below a node, each in its seat, in the order of the parameters. -/
def seats (n : Node) : List Seat :=
  n.arguments.flatMap fun a =>
    a.2.places.map fun p => ⟨.slot a.1 :: p.1, n.kind.expects a.1, p.2⟩

/-- Numbering nodes loses none of them. -/
theorem nodes_numbered (index : Nat) (ns : List Node) : (numbered index ns).map (·.2) = ns := by
  induction ns generalizing index with
  | nil => rfl
  | cons n rest ih => rw [numbered, List.map_cons, ih]

/-- The nodes in an argument are those at its places. -/
theorem nodes_places (a : Argument) : a.places.map (·.2) = a.children := by
  cases a with
  | nodes ns => exact nodes_numbered 0 ns
  | fieldGroups g =>
    cases g with
    | many ns => exact nodes_numbered 0 ns
    | one n => rfl
  | _ => rfl

/-- The nodes in the seats are the children of the node. -/
theorem nodes_seats (n : Node) : n.seats.map (·.node) = n.children := by
  simp only [seats, children, List.map_flatMap, List.map_map, ← nodes_places]
  rfl

/-- The node in a seat is one of them. -/
theorem mem_children_of_mem_seats {n : Node} {s : Seat} (hs : s ∈ n.seats) : s.node ∈ n.children :=
  n.nodes_seats ▸ List.mem_map_of_mem hs

/-- So it is smaller than the node above. -/
theorem sizeOf_seat_lt {n : Node} {s : Seat} (hs : s ∈ n.seats) : sizeOf s.node < sizeOf n :=
  n.sizeOf_lt_of_mem_children s.node (mem_children_of_mem_seats hs)

/-! ## Traversal -/

/-- The seats below a node in the order in which the check comes to them: seat after seat, and what
    stands below a node before the next seat. -/
def descent (n : Node) : List Seat :=
  n.seats.attach.flatMap fun s => s.1 :: s.1.node.descent.map (·.under s.1.way)
  termination_by sizeOf n
  decreasing_by exact sizeOf_seat_lt s.2

/-- The descent goes through each seat and on into the node in it. -/
theorem descent_eq (n : Node) :
    n.descent = n.seats.flatMap fun s => s :: s.node.descent.map (·.under s.way) := by
  have hattach : n.seats.attach.flatMap (fun s => s.1 :: s.1.node.descent.map (·.under s.1.way))
      = n.seats.attach.unattach.flatMap fun s => s :: s.node.descent.map (·.under s.way) :=
    List.flatMap_subtype fun _ _ => rfl
  rw [descent, hattach, List.unattach_attach]

/-- The seat at the top of a tree, where any type will do. -/
def root (n : Node) : Seat := ⟨[], .any, n⟩

/-- A seat below a node is one right below it, or stands below the node in one of these. -/
theorem mem_descent_iff {n : Node} {s : Seat} :
    s ∈ n.descent ↔ ∃ top ∈ n.seats, s = top ∨ ∃ r ∈ top.node.descent, s = r.under top.way := by
  rw [descent_eq]
  simp [eq_comm]

end Node

namespace Seat

/-- The seat, and then all seats below it. -/
def traversal (s : Seat) : List Seat := s :: s.node.descent.map (·.under s.way)

/-- Going through a seat that is seen from further up is going through the seat and seeing the
    result from there. -/
theorem traversal_under (way : NodePath) (s : Seat) :
    (s.under way).traversal = s.traversal.map (·.under way) := by
  simp [traversal, under]

/-- Below a seat stand those of its node, each with what is below it. -/
theorem traversal_eq (s : Seat) :
    s.traversal = s :: (s.node.seats.map (·.under s.way)).flatMap traversal := by
  rw [traversal, Node.descent_eq, List.flatMap_map, List.map_flatMap]
  congr 2
  funext r
  exact (traversal_under s.way r).symm

/-- A seat that is gone through is the first one, or is come to through one right below it. -/
theorem mem_traversal_iff {s r : Seat} :
    r ∈ s.traversal ↔ r = s ∨ ∃ top ∈ s.node.seats, r ∈ (top.under s.way).traversal := by
  rw [traversal_eq, List.mem_cons, List.flatMap_map, List.mem_flatMap]

/-- What holds of a seat as soon as it holds of those right below it holds of all seats. -/
theorem induction {P : Seat → Prop}
    (h : ∀ s, (∀ top ∈ s.node.seats, P (top.under s.way)) → P s) (s : Seat) : P s :=
  h s fun top _ => induction h (top.under s.way)
  termination_by sizeOf s.node
  decreasing_by
    show sizeOf top.node < sizeOf s.node
    exact Node.sizeOf_seat_lt ‹_›

end Seat

namespace Node

/-- The traversal from the root is the root and then its descent. -/
theorem traversal_root (n : Node) : n.root.traversal = n.root :: n.descent :=
  congrArg (n.root :: ·) (List.map_id n.descent)

/-! ## Seats in documents -/

/-- A numbered node is the one at its number in the list. -/
theorem mem_numbered {index : Nat} {ns : List Node} {p : NodePath × Node}
    (h : p ∈ numbered index ns) : ∃ i, p.1 = [.place (index + i)] ∧ ns[i]? = some p.2 := by
  induction ns generalizing index with
  | nil => cases h
  | cons n rest ih =>
    rcases List.mem_cons.mp h with rfl | h
    · exact ⟨0, rfl, rfl⟩
    · obtain ⟨i, hway, hnode⟩ := ih h
      exact ⟨i + 1, by rw [hway, Nat.add_assoc, Nat.add_comm 1], hnode⟩

/-- An argument stands in the document under the name of its parameter. -/
theorem step?_document {n : Node} {a : String × Argument} (ha : a ∈ n.arguments) :
    n.toJson.decoded.step? a.1 = some a.2.toJson.decoded := by
  have hsorted := Json.perm_sortMembers n.distinct_decodedMembers
  have hmem : (a.1, a.2.toJson.decoded) ∈ Json.sortMembers n.decodedMembers :=
    hsorted.mem_iff.mpr (List.mem_cons_of_mem _ (List.mem_map.mpr ⟨a, ha, rfl⟩))
  have hfind := (Json.find?_eq_some_iff (n.distinct_decodedMembers.perm hsorted.symm)).mpr
    ⟨hmem, rfl⟩
  rw [toJson_decoded, Json.step?, Json.member?, hfind]
  · rfl
  · exact fun _ h => Json.noConfusion h

/-- The document of an argument is that of its node, or the list of those of its nodes.  So a step,
    or a step and a number, leads from it to the document of every node that it holds. -/
theorem mem_places {a : Argument} {p : NodePath × Node} (hp : p ∈ a.places) :
    (p.1 = [] ∧ a.toJson = p.2.toJson) ∨
      ∃ ns i, p.1 = [.place i] ∧ a.toJson = .arr (toJsons ns) ∧ ns[i]? = some p.2 := by
  have hlist : ∀ {ns : List Node}, p ∈ numbered 0 ns →
      ∃ i, p.1 = [.place i] ∧ ns[i]? = some p.2 := by
    intro ns hp
    obtain ⟨i, hway, hnode⟩ := mem_numbered hp
    rw [Nat.zero_add] at hway
    exact ⟨i, hway, hnode⟩
  cases a with
  | node n =>
    obtain rfl := List.mem_singleton.mp hp
    exact .inl ⟨rfl, rfl⟩
  | nodes ns =>
    obtain ⟨i, hway, hnode⟩ := hlist hp
    exact .inr ⟨ns, i, hway, rfl, hnode⟩
  | fieldGroups g =>
    cases g with
    | many ns =>
      obtain ⟨i, hway, hnode⟩ := hlist hp
      exact .inr ⟨ns, i, hway, rfl, hnode⟩
    | one n =>
      obtain rfl := List.mem_singleton.mp hp
      exact .inl ⟨rfl, rfl⟩
  | _ => cases hp

/-- The way to a place in an argument leads to the document of the node there. -/
theorem descend?_place {a : Argument} {p : NodePath × Node} (hp : p ∈ a.places) :
    a.toJson.decoded.descend? (p.1.map PathStep.text) = some p.2.toJson.decoded := by
  rcases mem_places hp with ⟨hway, hdoc⟩ | ⟨ns, i, hway, hdoc, hnode⟩
  · rw [hway, hdoc]
    rfl
  · rw [hway, hdoc, Json.decoded_arr, toJsons_eq_map]
    show ((Json.arr _).step? (toString i)).bind (Json.descend? []) = _
    rw [Json.step?_arr, List.getElem?_map, List.getElem?_map, hnode]
    rfl

/-- The way to a seat right below a node leads to the document of the node in it: first the name of
    the parameter, then the index, if there is one. -/
theorem descend?_seat {n : Node} {s : Seat} (hs : s ∈ n.seats) :
    n.toJson.decoded.descend? (s.way.map PathStep.text) = some s.node.toJson.decoded := by
  obtain ⟨a, ha, hs⟩ := List.mem_flatMap.mp hs
  obtain ⟨p, hp, rfl⟩ := List.mem_map.mp hs
  show (n.toJson.decoded.step? a.1).bind (Json.descend? (p.1.map PathStep.text)) = _
  rw [step?_document ha]
  exact descend?_place hp

/-- In the document of a tree the way to a seat leads to the document of the node in it. -/
theorem descend?_of_mem_descent {n : Node} {s : Seat} (hs : s ∈ n.descent) :
    n.toJson.decoded.descend? (s.way.map PathStep.text) = some s.node.toJson.decoded := by
  induction n using children_induction generalizing s with
  | h n ih =>
    obtain ⟨top, htop, rfl | ⟨r, hr, rfl⟩⟩ := mem_descent_iff.mp hs
    · exact descend?_seat htop
    · show n.toJson.decoded.descend? ((top.way ++ r.way).map PathStep.text) = _
      rw [List.map_append, Json.descend?_append, descend?_seat htop]
      exact ih top.node (mem_children_of_mem_seats htop) hr

/-! ## Texts of ways -/

end Node

/-- A way whose steps are written as they are meant, and none of them empty.  Its text can then be
    taken apart at the slashes. -/
def NodePath.IsPlain (way : NodePath) : Prop :=
  ∀ s ∈ way, Json.IsPlainStep s.text ∧ s.text ≠ ""

namespace NodePath

variable {way : NodePath}

/-- The text of a way is a pointer to where its steps lead. -/
theorem pointer?_text (hne : way ≠ []) (h : way.IsPlain) (j : Json) :
    j.pointer? way.text = j.descend? (way.map PathStep.text) := by
  have hempty : way.isEmpty = false := List.isEmpty_eq_false_iff.mpr hne
  have hsteps : ∀ s ∈ way.map PathStep.text, Json.IsPlainStep s :=
    List.forall_mem_map.mpr fun s hs => (h s hs).1
  rw [← Json.pointer?_join hsteps j, text, if_neg (by simp [hempty]), List.map_map]
  rfl

/-- Only the root is written as a single slash. -/
theorem text_ne_slash (hne : way ≠ []) (h : way.IsPlain) : way.text ≠ "/" := by
  obtain ⟨s, rest, rfl⟩ := List.exists_cons_of_ne_nil hne
  intro hslash
  have hchars : '/' :: (s.text.toList ++ rest.flatMap fun r => '/' :: r.text.toList) = ['/'] := by
    have hlist := congrArg String.toList hslash
    simpa [text, String.toList_join, List.flatMap_map] using hlist
  have hfirst : s.text.toList = [] := (List.append_eq_nil_iff.mp (List.cons.inj hchars).2).1
  exact (h s List.mem_cons_self).2 (String.toList_eq_nil_iff.mp hfirst)

/-- A way is plain if its parts are. -/
theorem isPlain_append {way' : NodePath} :
    NodePath.IsPlain (way ++ way') ↔ way.IsPlain ∧ way'.IsPlain :=
  List.forall_mem_append

/-- An index is written in digits, so it is a plain step. -/
theorem isPlain_place (i : Nat) : NodePath.IsPlain [.place i] := by
  refine List.forall_mem_singleton.mpr ⟨Json.isPlainStep_repr i, fun hempty => ?_⟩
  have hdigits : (toString i).toList = Nat.toDigits 10 i := Nat.toList_repr
  have hlist := congrArg String.toList hempty
  exact Nat.toDigits_ne_nil (hdigits.symm.trans hlist)

end NodePath

/-- The names of parameters are plain steps, for every kind of node. -/
theorem Kind.isPlain_params (k : Kind) :
    ∀ p ∈ k.params, Json.IsPlainStep p.name ∧ p.name ≠ "" := by
  cases k with
  | words joiner => cases joiner <;> decide
  | _ => decide

namespace Node

/-- So are the names of arguments, which are names of parameters. -/
theorem isPlain_argument {n : Node} {a : String × Argument} (ha : a ∈ n.arguments) :
    NodePath.IsPlain [.slot a.1] := by
  have hmem : a.1 ∈ n.kind.params.map (·.name) :=
    n.names_arguments_sublist.subset (List.mem_map_of_mem ha)
  obtain ⟨p, hp, hname⟩ := List.mem_map.mp hmem
  refine List.forall_mem_singleton.mpr ?_
  show Json.IsPlainStep a.1 ∧ a.1 ≠ ""
  rw [← hname]
  exact n.kind.isPlain_params p hp

/-- The way to a place in an argument is empty or an index. -/
theorem isPlain_place {a : Argument} {p : NodePath × Node} (hp : p ∈ a.places) :
    p.1.IsPlain := by
  rcases mem_places hp with ⟨hway, -⟩ | ⟨-, i, hway, -⟩
  · rw [hway]
    exact nofun
  · rw [hway]
    exact NodePath.isPlain_place i

/-- The way to a seat begins with the name of a parameter, so it is not empty. -/
theorem isPlain_seat {n : Node} {s : Seat} (hs : s ∈ n.seats) : s.way ≠ [] ∧ s.way.IsPlain := by
  obtain ⟨a, ha, hs⟩ := List.mem_flatMap.mp hs
  obtain ⟨p, hp, rfl⟩ := List.mem_map.mp hs
  exact ⟨nofun, NodePath.isPlain_append.mpr ⟨isPlain_argument ha, isPlain_place hp⟩⟩

/-- All ways to seats below a node are plain and lead somewhere else than the root. -/
theorem isPlain_of_mem_descent {n : Node} {s : Seat} (hs : s ∈ n.descent) :
    s.way ≠ [] ∧ s.way.IsPlain := by
  induction n using children_induction generalizing s with
  | h n ih =>
    obtain ⟨top, htop, rfl | ⟨r, hr, rfl⟩⟩ := mem_descent_iff.mp hs
    · exact isPlain_seat htop
    · obtain ⟨hne, hplain⟩ := isPlain_seat htop
      have hbelow : r.way.IsPlain := (ih top.node (mem_children_of_mem_seats htop) hr).2
      exact ⟨by simp [Seat.under, hne], NodePath.isPlain_append.mpr ⟨hplain, hbelow⟩⟩

end Node

end SyntheticTables
