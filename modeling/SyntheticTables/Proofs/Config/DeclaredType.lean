/-
  The types of trees are normal.

  A choice declares the union of its children's types.  With a choice among the children it makes no
  difference whether that one forms its own union first: the alternatives of the type of a node are
  those of its options (`Node.mem_alternatives_declaredType`), which are what nested choices come
  down to.  Choices with the same options hence declare the same type, in whatever order, how often
  and how deeply nested the options stand.  The declared type also says which nodes a tree of texts
  can have (`Node.text_induction`).
-/
import SyntheticTables.Proofs.Config.Replacement
import SyntheticTables.Proofs.TypeDesc.Union

namespace SyntheticTables

namespace Node

/-! ## Options -/

mutual

/-- What a node chooses from in the end: the node itself, or the options of all children of a
    choice. -/
def options : Node → List Node
  | .choice children => optionsOf children
  | other => [other]
  termination_by structural n => n

/-- The options of several nodes, in order. -/
def optionsOf : List Node → List Node
  | [] => []
  | n :: rest => options n ++ optionsOf rest
  termination_by structural ns => ns

end

/-- The options of several nodes are those of each. -/
theorem optionsOf_eq_flatMap (ns : List Node) : optionsOf ns = ns.flatMap options := by
  induction ns with
  | nil => rfl
  | cons n rest ih => rw [optionsOf, ih, List.flatMap_cons]

/-- A choice comes down to what its children come down to. -/
theorem options_choice (ns : List Node) : (choice ns).options = ns.flatMap options := by
  rw [options, optionsOf_eq_flatMap]

/-! ## Declared types -/

/-- A choice declares the union of its children's types. -/
theorem declaredType_choice (ns : List Node) :
    (choice ns).declaredType = .unionOf (ns.map declaredType) := by
  rw [declaredType, declaredTypes_eq_map]

/-- A sequence declares sequences of the union of its children's types. -/
theorem declaredType_seq (ns : List Node) (distinct : Bool) :
    (seq ns distinct).declaredType = .seq (.unionOf (ns.map declaredType)) := by
  rw [declaredType, declaredTypes_eq_map]

/-- The type of every tree is normal.  By induction on the tree: unions are formed by `unionOf`
    throughout, and that gives normal types. -/
theorem declaredType_normal (n : Node) : n.declaredType.Normal := by
  induction n using children_induction with
  | h n ih =>
    have hunion : ∀ ns : List Node, n.children = ns →
        (TypeDesc.unionOf (ns.map declaredType)).Normal := by
      rintro ns rfl
      exact TypeDesc.normal_unionOf (List.forall_mem_map.mpr ih)
    cases n with
    | maybe prob child =>
      exact TypeDesc.normal_optional (ih child (mem_children_iff.mpr ⟨.maybe prob, rfl⟩))
    | choice ns =>
      rw [declaredType_choice]
      exact hunion ns (children_choice ns)
    | seq ns distinct =>
      rw [declaredType_seq]
      exact hunion ns (children_seq ns distinct)
    | batch child size distinct => exact ih child (mem_children_iff.mpr ⟨.batch size distinct, rfl⟩)
    | unique child => exact ih child (mem_children_iff.mpr ⟨.unique, rfl⟩)
    | _ => trivial

/-- The alternatives of the type of a node are those of its options.  By induction on the tree; only
    choices have options other than themselves. -/
theorem mem_alternatives_declaredType {a : TypeDesc} (n : Node) :
    a ∈ n.declaredType.alternatives ↔ ∃ o ∈ n.options, a ∈ o.declaredType.alternatives := by
  induction n using children_induction with
  | h n ih =>
    cases n with
    -- only a choice has options other than itself
    | choice ns =>
      rw [children_choice] at ih
      have hnormal : ∀ t ∈ ns.map declaredType, t.Normal :=
        List.forall_mem_map.mpr fun n _ => n.declaredType_normal
      rw [declaredType_choice, TypeDesc.mem_alternatives_unionOf hnormal, options_choice]
      constructor
      · intro h
        obtain ⟨t, ht, ha⟩ := h
        obtain ⟨n, hn, rfl⟩ := List.mem_map.mp ht
        obtain ⟨o, ho, hao⟩ := (ih n hn).mp ha
        exact ⟨o, List.mem_flatMap.mpr ⟨n, hn, ho⟩, hao⟩
      · rintro ⟨o, ho, hao⟩
        obtain ⟨n, hn, hon⟩ := List.mem_flatMap.mp ho
        exact ⟨n.declaredType, List.mem_map_of_mem hn, (ih n hn).mpr ⟨o, hon, hao⟩⟩
    | _ => simp [options]

/-- Trees of texts have few kinds of nodes: words, tokens for missing values, and choices among trees
    of texts or `unique` nodes above one. -/
theorem text_induction {P : Node → Prop} (word : P .word)
    (words : ∀ joiner count, P (.words joiner count))
    (missingValueName : ∀ style, P (.missingValueName style))
    (choice : ∀ ns, (∀ n ∈ ns, P n) → P (.choice ns)) (unique : ∀ n, P n → P (.unique n))
    {n : Node} (h : n.declaredType.satisfies Check.text = true) : P n := by
  induction n using children_induction with
  | h n ih =>
    cases n with
    | word => exact word
    | words joiner count => exact words joiner count
    | missingValueName style => exact missingValueName style
    | maybe prob child =>
      -- the absent value is none of the texts
      have hnone := TypeDesc.satisfies_unionOf_iff.mp h (.prim .none) (by simp)
      cases hnone
    | choice ns =>
      rw [children_choice] at ih
      rw [declaredType_choice, TypeDesc.satisfies_unionOf_iff] at h
      exact choice ns fun n hn => ih n hn (h _ (List.mem_map_of_mem hn))
    | unique child =>
      rw [declaredType] at h
      exact unique child (ih child (List.mem_singleton_self child) h)
    | _ => cases h

/-- Choices with the same options declare the same type, however the options are nested and however
    often they come.  The type is a union, and a union depends on nothing but the set of its
    alternatives. -/
theorem declaredType_choice_congr {cs ds : List Node}
    (h : ∀ o, o ∈ (choice cs).options ↔ o ∈ (choice ds).options) :
    (choice cs).declaredType = (choice ds).declaredType := by
  have hparts : ∀ (ns : List Node) (a : TypeDesc),
      (∃ t ∈ ns.map declaredType, a ∈ t.alternatives) ↔
        ∃ o ∈ (choice ns).options, a ∈ o.declaredType.alternatives := by
    intro ns a
    have hnormal : ∀ t ∈ ns.map declaredType, t.Normal :=
      List.forall_mem_map.mpr fun n _ => n.declaredType_normal
    rw [← mem_alternatives_declaredType, declaredType_choice,
      TypeDesc.mem_alternatives_unionOf hnormal]
  rw [declaredType_choice, declaredType_choice]
  refine TypeDesc.unionOf_congr fun a => ?_
  simp only [hparts, h]

/-- The children of a sequence may be put in another order. -/
theorem declaredType_seq_perm {cs ds : List Node} (h : cs.Perm ds) (distinct : Bool) :
    (seq cs distinct).declaredType = (seq ds distinct).declaredType := by
  rw [declaredType_seq, declaredType_seq]
  refine congrArg TypeDesc.seq (TypeDesc.unionOf_congr fun a => ?_)
  simp only [(h.map declaredType).mem_iff]

end Node

/-! ## The canonical form -/

/-- Unions of normal types are normal; they depend on which types are put together and not on their
    order, number or grouping, hold the values of each, and stand in and are stood in for member by
    member.  So the type of every tree is normal, and choices with the same options, and sequences
    of the same children in another order, may be exchanged anywhere without a change of type. -/
theorem TypeDesc.union_canonical {xs ys : List TypeDesc} (hxs : ∀ x ∈ xs, x.Normal)
    (hys : ∀ y ∈ ys, y.Normal) :
    (unionOf xs).Normal ∧
    ((∀ t, t ∈ xs ↔ t ∈ ys) → unionOf xs = unionOf ys) ∧
    unionOf (xs ++ ys) = unionOf [unionOf xs, unionOf ys] ∧
    (∀ v : Value, v.conforms (unionOf xs) = true ↔ ∃ x ∈ xs, v.conforms x = true) ∧
    (∀ b, (unionOf xs).satisfies b = true ↔ ∀ x ∈ xs, x.satisfies b = true) ∧
    (∀ a : TypeDesc, a.isUnion = false →
      (a.satisfies (unionOf xs) = true ↔ ∃ x ∈ xs, a.satisfies x = true)) ∧
    (∀ n : Node, n.declaredType.Normal) ∧
    (∀ (around : Surroundings) (cs ds : List Node),
      (∀ o, o ∈ (Node.choice cs).options ↔ o ∈ (Node.choice ds).options) →
      (around.fill (.choice cs)).declaredType = (around.fill (.choice ds)).declaredType) ∧
    (∀ (around : Surroundings) (cs ds : List Node) (distinct : Bool), cs.Perm ds →
      (around.fill (.seq cs distinct)).declaredType
        = (around.fill (.seq ds distinct)).declaredType) := by
  refine ⟨normal_unionOf hxs, ?_, unionOf_append hxs hys, fun _ => Value.conforms_unionOf,
    fun _ => satisfies_unionOf_iff, fun _ ha => satisfies_of_unionOf_iff ha,
    Node.declaredType_normal, ?_, ?_⟩
  · intro h
    exact unionOf_congr fun a => by simp only [h]
  · intro around cs ds h
    exact Surroundings.declaredType_fill (Node.declaredType_choice_congr h)
  · intro around cs ds distinct h
    exact Surroundings.declaredType_fill (Node.declaredType_seq_perm h distinct)

/-- A float or nothing, as normal types write it. -/
def TypeDesc.optionalFloat : TypeDesc := .union [.prim .none, .prim .float]

/-- A float or nothing, and sequences of it: their union does not depend on order or repetition, and
    an integer may stand in for it.  Two batches of choices among a word, a boolean and a missing
    value, one nested twice with a word too many, declare the same type, and so do sequences of a
    word and a boolean in either order. -/
theorem TypeDesc.union_canonical_regrouped :
    (∀ x ∈ [optionalFloat, .seq optionalFloat], x.Normal) ∧
    (∀ y ∈ [.seq optionalFloat, optionalFloat, .seq optionalFloat], y.Normal) ∧
    unionOf [optionalFloat, .seq optionalFloat]
      = unionOf [.seq optionalFloat, optionalFloat, .seq optionalFloat] ∧
    (prim .int).isUnion = false ∧
    (prim .int).satisfies (unionOf [optionalFloat, .seq optionalFloat]) = true ∧
    (Node.batch (.choice [.word, .boolean 0.5, .missingValueName none]) (.fixed 2)
        false).declaredType
      = (Node.batch
          (.choice [.boolean 0.5, .choice [.missingValueName none, .choice [.word, .word]]])
          (.fixed 2) false).declaredType ∧
    [Node.word, .boolean 0.5].Perm [.boolean 0.5, .word] ∧
    (Node.unique (.seq [.word, .boolean 0.5] true)).declaredType
      = (Node.unique (.seq [.boolean 0.5, .word] true)).declaredType := by
  have hfloat : optionalFloat.Normal := by
    refine ⟨?_, by decide, ⟨rfl, trivial⟩, ⟨rfl, trivial⟩, trivial⟩
    exact List.pairwise_pair.mpr rfl
  have hseq : (seq optionalFloat).Normal := hfloat
  have hxs : ∀ x ∈ [optionalFloat, .seq optionalFloat], x.Normal := by
    simp [hfloat, hseq]
  have hys : ∀ y ∈ [.seq optionalFloat, optionalFloat, .seq optionalFloat], y.Normal := by
    simp [hfloat, hseq]
  obtain ⟨-, hsame, -, -, -, hstands, -, hchoice, hperm⟩ := union_canonical hxs hys
  have hswap : [Node.word, .boolean 0.5].Perm [.boolean 0.5, .word] := .swap _ _ _
  -- left to show: the two lists have the same members, and so have the options of the two choices
  refine ⟨hxs, hys, hsame ?_, rfl, (hstands _ rfl).mpr ⟨optionalFloat, by simp, by decide⟩,
    hchoice [.batch (.fixed 2) false] _ _ ?_, hswap, hperm [.unique] _ _ true hswap⟩
  · intro t
    simp only [List.mem_cons, List.not_mem_nil, or_false]
    tauto
  · intro o
    simp only [Node.options, Node.optionsOf, List.append_nil, List.cons_append, List.nil_append,
      List.mem_cons, List.not_mem_nil, or_false]
    tauto

end SyntheticTables
