/-
  Trees with one node exchanged for another.

  A frame is a node with a hole in the place of one child, and the surroundings of a node in a tree
  are the frames from the root down to it.  Every child of a node sits in a frame
  (`Node.mem_children_iff`), so every node of a tree has its surroundings (`Node.within_iff`).  What
  the check asks of a child is that it makes sense on its own and that its type fits, and the type
  of a node depends on its children through their types alone; so a node may give way to one of the
  same type wherever it stands.
-/
import SyntheticTables.Proofs.Config.Arguments

namespace SyntheticTables

/-! ## Frames -/

/-- A node with a hole in the place of one child: one constructor for each parameter that holds a
    node, with all other parameters of the node. -/
inductive Frame where
  | maybe (prob : Option Float)
  | choice (before after : List Node)
  | seq (before after : List Node) (distinct : Bool)
  | batch (size : SizeSpec) (distinct : Bool)
  | unique
  | integerMissing (params : IntegerTypeParams)
  | enumIntegerLabel (params : EnumIntegerTypeParams) (missingName : Node)
  | enumIntegerMissing (params : EnumIntegerTypeParams) (labelName : Node)
  | numberMissing (params : NumberTypeParams)
  | stringMissing (params : StringTypeParams)
  | enumStringLabel (params : EnumStringTypeParams) (missingName : Node)
  | enumStringMissing (params : EnumStringTypeParams) (labelName : Node)
  | metaGroupName (count : IntRange) (fieldName title description : Node) (undefinedProb : Float)
  | metaFieldName (groupName : Node) (count : IntRange) (title description : Node)
      (undefinedProb : Float)
  | metaTitle (groupName : Node) (count : IntRange) (fieldName description : Node)
      (undefinedProb : Float)
  | metaDescription (groupName : Node) (count : IntRange) (fieldName title : Node)
      (undefinedProb : Float)
  | fieldGroupMeta (fieldType : Node)
  | fieldGroupType (groupMeta : Node)
  | likertMeta (fieldType : Node)
  | likertType (groupMeta : Node)
  /-- The only field group of a schema. -/
  | schemaFields (rows : SizeSpec) (missingName : Node) (missingMax : UInt64)
      (undefinedProb : Float)
  /-- One field group among several. -/
  | schemaGroup (before after : List Node) (rows : SizeSpec) (missingName : Node)
      (missingMax : UInt64) (undefinedProb : Float)
  | schemaMissing (fields : FieldGroups) (rows : SizeSpec) (missingMax : UInt64)
      (undefinedProb : Float)
  | resourceName (description schema : Node)
  | resourceDescription (name schema : Node)
  | resourceSchema (name description : Node)
  | packageName (description resource : Node) (resources : SizeSpec)
  | packageDescription (name resource : Node) (resources : SizeSpec)
  | packageResource (name description : Node) (resources : SizeSpec)

namespace Frame

/-- The node with its hole filled. -/
def fill : Frame → Node → Node
  | maybe prob, n => .maybe prob n
  | choice before after, n => .choice (before ++ n :: after)
  | seq before after distinct, n => .seq (before ++ n :: after) distinct
  | batch size distinct, n => .batch n size distinct
  | unique, n => .unique n
  | integerMissing p, n => .integerFieldType p n
  | enumIntegerLabel p missingName, n => .enumIntegerFieldType p n missingName
  | enumIntegerMissing p labelName, n => .enumIntegerFieldType p labelName n
  | numberMissing p, n => .numberFieldType p n
  | stringMissing p, n => .stringFieldType p n
  | enumStringLabel p missingName, n => .enumStringFieldType p n missingName
  | enumStringMissing p labelName, n => .enumStringFieldType p labelName n
  | metaGroupName count fieldName title description prob, n =>
    .metaGroup n count fieldName title description prob
  | metaFieldName groupName count title description prob, n =>
    .metaGroup groupName count n title description prob
  | metaTitle groupName count fieldName description prob, n =>
    .metaGroup groupName count fieldName n description prob
  | metaDescription groupName count fieldName title prob, n =>
    .metaGroup groupName count fieldName title n prob
  | fieldGroupMeta fieldType, n => .fieldGroup n fieldType
  | fieldGroupType groupMeta, n => .fieldGroup groupMeta n
  | likertMeta fieldType, n => .likertFieldGroup n fieldType
  | likertType groupMeta, n => .likertFieldGroup groupMeta n
  | schemaFields rows missingName missingMax prob, n =>
    .tableSchema (.one n) rows missingName missingMax prob
  | schemaGroup before after rows missingName missingMax prob, n =>
    .tableSchema (.many (before ++ n :: after)) rows missingName missingMax prob
  | schemaMissing fields rows missingMax prob, n => .tableSchema fields rows n missingMax prob
  | resourceName description schema, n => .tableResource n description schema
  | resourceDescription name schema, n => .tableResource name n schema
  | resourceSchema name description, n => .tableResource name description n
  | packageName description resource resources, n => .package n description resource resources
  | packageDescription name resource resources, n => .package name n resource resources
  | packageResource name description resources, n => .package name description n resources

end Frame

namespace Node

/-- Every child of a node sits in a frame, and the frame filled with it is the node.  A child in a
    list has those before and after it in its frame; the other children have a frame for each
    slot. -/
theorem exists_frame {m n : Node} (hm : m ∈ n.children) : ∃ f : Frame, f.fill m = n := by
  cases n with
  | maybe prob child =>
    obtain rfl : m = child := by
      cases prob <;> simpa [children, arguments, Argument.children] using hm
    exact ⟨.maybe prob, rfl⟩
  | choice nodes =>
    have hm : m ∈ nodes := by simpa [children, arguments, Argument.children] using hm
    obtain ⟨before, after, rfl⟩ := List.append_of_mem hm
    exact ⟨.choice before after, rfl⟩
  | seq nodes distinct =>
    have hm : m ∈ nodes := by simpa [children, arguments, Argument.children] using hm
    obtain ⟨before, after, rfl⟩ := List.append_of_mem hm
    exact ⟨.seq before after distinct, rfl⟩
  | tableSchema fields rows missingName missingMax prob =>
    have hm : m ∈ (Argument.fieldGroups fields).children ∨ m = missingName := by
      simpa [children, arguments, missingArguments, Argument.children] using hm
    rcases hm with hm | rfl
    · cases fields with
      | one node =>
        obtain rfl : m = node := List.mem_singleton.mp hm
        exact ⟨.schemaFields .., rfl⟩
      | many nodes =>
        obtain ⟨before, after, rfl⟩ := List.append_of_mem (show m ∈ nodes from hm)
        exact ⟨.schemaGroup before after .., rfl⟩
    · exact ⟨.schemaMissing .., rfl⟩
  -- the other nodes have a fixed number of children, each in a slot of its own
  | batch child size distinct =>
    obtain _ | ⟨_, ⟨⟩⟩ := hm
    exact ⟨.batch size distinct, rfl⟩
  | unique child =>
    obtain _ | ⟨_, ⟨⟩⟩ := hm
    exact ⟨.unique, rfl⟩
  | integerFieldType p missingName =>
    obtain _ | ⟨_, ⟨⟩⟩ := hm
    exact ⟨.integerMissing p, rfl⟩
  | numberFieldType p missingName =>
    obtain _ | ⟨_, ⟨⟩⟩ := hm
    exact ⟨.numberMissing p, rfl⟩
  | stringFieldType p missingName =>
    obtain _ | ⟨_, ⟨⟩⟩ := hm
    exact ⟨.stringMissing p, rfl⟩
  | enumIntegerFieldType p labelName missingName =>
    obtain _ | ⟨_, _ | ⟨_, ⟨⟩⟩⟩ := hm
    · exact ⟨.enumIntegerLabel p missingName, rfl⟩
    · exact ⟨.enumIntegerMissing p labelName, rfl⟩
  | enumStringFieldType p labelName missingName =>
    obtain _ | ⟨_, _ | ⟨_, ⟨⟩⟩⟩ := hm
    · exact ⟨.enumStringLabel p missingName, rfl⟩
    · exact ⟨.enumStringMissing p labelName, rfl⟩
  | metaGroup groupName count fieldName title description prob =>
    obtain _ | ⟨_, _ | ⟨_, _ | ⟨_, _ | ⟨_, ⟨⟩⟩⟩⟩⟩ := hm
    · exact ⟨.metaGroupName count fieldName title description prob, rfl⟩
    · exact ⟨.metaFieldName groupName count title description prob, rfl⟩
    · exact ⟨.metaTitle groupName count fieldName description prob, rfl⟩
    · exact ⟨.metaDescription groupName count fieldName title prob, rfl⟩
  | fieldGroup groupMeta fieldType =>
    obtain _ | ⟨_, _ | ⟨_, ⟨⟩⟩⟩ := hm
    · exact ⟨.fieldGroupMeta fieldType, rfl⟩
    · exact ⟨.fieldGroupType groupMeta, rfl⟩
  | likertFieldGroup groupMeta fieldType =>
    obtain _ | ⟨_, _ | ⟨_, ⟨⟩⟩⟩ := hm
    · exact ⟨.likertMeta fieldType, rfl⟩
    · exact ⟨.likertType groupMeta, rfl⟩
  | tableResource name description schema =>
    obtain _ | ⟨_, _ | ⟨_, _ | ⟨_, ⟨⟩⟩⟩⟩ := hm
    · exact ⟨.resourceName description schema, rfl⟩
    · exact ⟨.resourceDescription name schema, rfl⟩
    · exact ⟨.resourceSchema name description, rfl⟩
  | package name description resource resources =>
    obtain _ | ⟨_, _ | ⟨_, _ | ⟨_, ⟨⟩⟩⟩⟩ := hm
    · exact ⟨.packageName description resource resources, rfl⟩
    · exact ⟨.packageDescription name resource resources, rfl⟩
    · exact ⟨.packageResource name description resources, rfl⟩
  | missingValueName style => cases style <;> cases hm
  | _ => cases hm

/-- A child of a node sits in a frame, and whatever sits in a frame is a child. -/
theorem mem_children_iff {m n : Node} : m ∈ n.children ↔ ∃ f : Frame, f.fill m = n := by
  constructor
  · exact exists_frame
  · rintro ⟨f, rfl⟩
    cases f with
    | maybe prob => cases prob <;> simp [Frame.fill, children, arguments, Argument.children]
    | _ => simp [Frame.fill, children, arguments, missingArguments, Argument.children]

end Node

/-! ## Filling -/

/-- A node among others may give way to one that makes sense and fits as it did. -/
theorem Node.allWellFormed_exchange {expected : TypeDesc} {before after : List Node} {n m : Node}
    (h : AllWellFormed expected (before ++ n :: after)) (hm : m.WellFormed)
    (hfits : n.Fits expected → m.Fits expected) :
    AllWellFormed expected (before ++ m :: after) := by
  rw [allWellFormed_iff] at h ⊢
  simp only [List.mem_append, List.mem_cons] at h ⊢
  rintro k (hk | rfl | hk)
  · exact h k (.inl hk)
  · exact ⟨hm, hfits (h n (.inr (.inl rfl))).2⟩
  · exact h k (.inr (.inr hk))

namespace Frame

/-- The type of a node depends on its children through their types alone. -/
theorem declaredType_fill {f : Frame} {n m : Node} (h : m.declaredType = n.declaredType) :
    (f.fill m).declaredType = (f.fill n).declaredType := by
  cases f <;> simp [fill, Node.declaredType, Node.declaredTypes_eq_map, h]

/-- What sits in a frame makes sense if the whole does. -/
theorem wellFormed_of_fill {f : Frame} {n : Node} (h : (f.fill n).WellFormed) : n.WellFormed :=
  h.children n (Node.mem_children_iff.mpr ⟨f, rfl⟩)

/-- A child may give way to a node that makes sense and has the same type.  A slot asks about its
    child for nothing but its type and its own check, and no slot asks about another one. -/
theorem wellFormed_fill {f : Frame} {n m : Node} (h : (f.fill n).WellFormed) (hm : m.WellFormed)
    (htype : m.declaredType = n.declaredType) : (f.fill m).WellFormed := by
  have hfits : ∀ {t : TypeDesc}, n.Fits t → m.Fits t := by
    intro t
    rw [Node.Fits, Node.Fits, htype]
    exact id
  -- in lists the other children stay as they were; elsewhere the slots are independent
  cases f with
  | choice before after =>
    exact ⟨by simp, Node.allWellFormed_exchange h.2 hm hfits⟩
  | seq before after distinct =>
    exact ⟨by simp, Node.allWellFormed_exchange h.2 hm hfits⟩
  | schemaGroup before after rows missingName missingMax prob =>
    obtain ⟨hprob, hrows, hfields, hmissing⟩ := h
    exact ⟨hprob, hrows, ⟨by simp, Node.allWellFormed_exchange hfields.2 hm hfits⟩, hmissing⟩
  | _ => simp_all [fill, Node.WellFormed, FieldGroups.WellFormed]

end Frame

/-! ## Surroundings -/

/-- The frames around a node, the outermost first. -/
abbrev Surroundings := List Frame

/-- The tree that has the node in these surroundings. -/
def Surroundings.fill (around : Surroundings) (n : Node) : Node := around.foldr Frame.fill n

/-- The node stands somewhere in the tree, at any depth, or is the tree. -/
inductive Node.Within : Node → Node → Prop where
  | self (n : Node) : n.Within n
  | child {n m t : Node} : n.Within m → m ∈ t.children → n.Within t

/-- Every node of a tree has its surroundings.  One direction collects the frames on the way up, the
    other goes down through them. -/
theorem Node.within_iff {n t : Node} : n.Within t ↔ ∃ around : Surroundings, around.fill n = t := by
  constructor
  · intro h
    induction h with
    | self => exact ⟨[], rfl⟩
    | child _ hm ih =>
      obtain ⟨around, rfl⟩ := ih
      obtain ⟨f, rfl⟩ := exists_frame hm
      exact ⟨f :: around, rfl⟩
  · rintro ⟨around, rfl⟩
    induction around with
    | nil => exact .self n
    | cons f around ih => exact .child ih (mem_children_iff.mpr ⟨f, rfl⟩)

namespace Surroundings

variable {around : Surroundings} {n m : Node}

/-- The type of a tree depends on a node through its type alone, wherever the node stands. -/
theorem declaredType_fill (h : m.declaredType = n.declaredType) :
    (around.fill m).declaredType = (around.fill n).declaredType := by
  induction around with
  | nil => exact h
  | cons f around ih => exact Frame.declaredType_fill ih

/-- Every node of a tree that makes sense makes sense. -/
theorem wellFormed_of_fill (h : (around.fill n).WellFormed) : n.WellFormed := by
  induction around with
  | nil => exact h
  | cons f around ih => exact ih (Frame.wellFormed_of_fill h)

/-- Wherever it stands, a node may give way to one that makes sense and has the same type. -/
theorem wellFormed_fill (h : (around.fill n).WellFormed) (hm : m.WellFormed)
    (htype : m.declaredType = n.declaredType) : (around.fill m).WellFormed := by
  induction around with
  | nil => exact hm
  | cons f around ih =>
    have hchild : (fill around m).WellFormed := ih (Frame.wellFormed_of_fill h)
    exact Frame.wellFormed_fill h hchild (declaredType_fill htype)

end Surroundings

/-! ## The check -/

namespace Node

/-- Of a tree that passes the check every node passes it as a root, and every node may give way to
    one that passes it and has the same type: the tree still passes, and its own type stays. -/
theorem check_compositional {t : Node} (ht : t.check = .ok ()) :
    (∀ n : Node, n.Within t → n.check = .ok () ∧ ∃ around : Surroundings, around.fill n = t) ∧
    ∀ (around : Surroundings) (n m : Node), around.fill n = t →
      m.check = .ok () → m.declaredType = n.declaredType →
      (around.fill m).check = .ok () ∧ (around.fill m).declaredType = t.declaredType := by
  simp only [check_eq_ok_iff] at ht ⊢
  constructor
  · intro n hn
    obtain ⟨around, rfl⟩ := within_iff.mp hn
    exact ⟨Surroundings.wellFormed_of_fill ht, around, rfl⟩
  · rintro around n m rfl hm htype
    exact ⟨Surroundings.wellFormed_fill ht hm htype, Surroundings.declaredType_fill htype⟩

/-- The place behind a field group in a schema that has to be new in a run. -/
def secondGroup : Surroundings := [.unique, .schemaGroup [defaultFieldGroup] [] (.fixed 3)
  defaultMissingName 5 0.5]

/-- A field group of any columns, or one of integer columns that is new in the run; its type is that
    of a field group. -/
def eitherGroup : Node :=
  .choice [defaultFieldGroup, .unique (.likertFieldGroup defaultMetaGroup defaultIntegerFieldType)]

/-- In a `unique` schema with two field groups, the second may be the default one or a choice
    between that and a group of integer columns: both trees pass the check and have the same
    type. -/
theorem check_compositional_fieldGroup :
    (secondGroup.fill defaultFieldGroup).check = .ok () ∧ eitherGroup.check = .ok () ∧
      eitherGroup.declaredType = defaultFieldGroup.declaredType ∧
      (secondGroup.fill eitherGroup).check = .ok () ∧
      (secondGroup.fill eitherGroup).declaredType
        = (secondGroup.fill defaultFieldGroup).declaredType := by
  have htree : (secondGroup.fill defaultFieldGroup).check = .ok () := rfl
  have heither : eitherGroup.check = .ok () := rfl
  have htype : eitherGroup.declaredType = defaultFieldGroup.declaredType := rfl
  exact ⟨htree, heither, htype,
    (check_compositional htree).2 secondGroup defaultFieldGroup eitherGroup rfl heither htype⟩

end Node

end SyntheticTables
