/-
  Where the values of a tree lie.

  `Node.Domain` reads a tree as a set of values, one clause for each kind of node: an integer lies
  in its range, a batch has as many elements as its size says and all of them lie in the domain of
  its child, a sequence has one element for each child.  How the values are found does not show:
  that a value has to be new only takes values away.  Every value of a checked tree lies in its
  domain (`Node.yields_domain`), by one induction over the nodes whose cases are the lemmas about
  parts.
-/
import SyntheticTables.Proofs.Domain.Part
import SyntheticTables.Proofs.Run

namespace SyntheticTables

open Draw Context

/-! ## Domains -/

mutual

/-- The values that a node describes; `token` says what stands for a missing value by default. -/
def Node.Domain (c : Context) (token : String → Prop) : Node → Value → Prop
  | .word => fun v => ∃ w ∈ c.vocabulary, v = .text w
  | .words joiner count => fun v => ∃ t, c.IsJoined joiner count t ∧ v = .text t
  | .integer min max => fun v => ∃ i, IntRange.Holds ⟨min, max⟩ i ∧ v = .int i
  | .number min max => fun v => ∃ x, FloatRange.Holds ⟨min, max⟩ x ∧ v = .float x
  | .boolean _ => fun v => ∃ b, v = .bool b
  | .interval start length => fun v => ∃ first n, start.Holds first ∧ length.Holds n ∧
    v = .interval first (saturatingAdd first n)
  | .missingValueName (some style) => fun v => ∃ t, c.IsToken style t ∧ v = .text t
  | .missingValueName none => fun v => ∃ t, token t ∧ v = .text t
  | .maybe _ child => fun v => v = .absent ∨ child.Domain c token v
  | .choice children => Node.SomeDomain c token children
  | .seq children _ => fun v => ∃ vs, Node.EachDomain c token children vs ∧ v = .seq vs
  | .batch child count _ => fun v => ∃ vs, count.Holds vs.length ∧
    (∀ w ∈ vs, child.Domain c token w) ∧ v = .seq vs
  | .unique child => child.Domain c token
  | .integerFieldType p missingName => fun v =>
    ∃ t, p.Describes (fun s => missingName.Domain c token (.text s)) t ∧ v = .fieldType (.integer t)
  | .numberFieldType p missingName => fun v =>
    ∃ t, p.Describes (fun s => missingName.Domain c token (.text s)) t ∧ v = .fieldType (.number t)
  | .stringFieldType p missingName => fun v =>
    ∃ t, p.Describes (fun s => missingName.Domain c token (.text s)) t ∧ v = .fieldType (.string t)
  | .enumIntegerFieldType p labelName missingName => fun v =>
    ∃ t, p.Describes (fun s => labelName.Domain c token (.text s))
        (fun s => missingName.Domain c token (.text s)) t ∧ v = .fieldType (.enumInteger t)
  | .enumStringFieldType p labelName missingName => fun v =>
    ∃ t, p.Describes (fun s => labelName.Domain c token (.text s))
        (fun s => missingName.Domain c token (.text s)) t ∧ v = .fieldType (.enumString t)
  | .metaGroup groupName count fieldName title description _ => fun v =>
    ∃ metas, MetasWithin count (fun s => groupName.Domain c token (.text s))
        (fun s => fieldName.Domain c token (.text s)) (fun s => title.Domain c token (.text s))
        (fun s => description.Domain c token (.text s)) metas ∧
      v = .seq (metas.map .fieldMeta)
  | .fieldGroup groupMeta fieldType => fun v =>
    ∃ fields, FieldsWithin (fun metas => groupMeta.Domain c token (.seq (metas.map .fieldMeta)))
        (fun t => fieldType.Domain c token (.fieldType t)) fields ∧
      v = .seq (fields.map .field)
  | .likertFieldGroup groupMeta fieldType => fun v =>
    ∃ fields, FieldsWithin (fun metas => groupMeta.Domain c token (.seq (metas.map .fieldMeta)))
        (fun t => fieldType.Domain c token (.fieldType t)) fields ∧
      v = .seq (fields.map .field)
  | .tableSchema fields rows missingName missingMax _ => fun v =>
    ∃ schema, SchemaWithin (FieldGroups.Domain c token fields) missingMax
        (fun s => missingName.Domain c token (.text s)) rows schema ∧ v = .tableSchema schema
  | .tableResource name description schema => fun v =>
    ∃ resource, ResourceWithin (fun s => name.Domain c token (.text s))
        (fun o => description.Domain c token (.ofOption (o.map .text)))
        (fun s => schema.Domain c token (.tableSchema s)) resource ∧ v = .tableResource resource
  | .package name description resource resources => fun v =>
    ∃ package, PackageWithin (fun s => name.Domain c token (.text s))
        (fun o => description.Domain c token (.ofOption (o.map .text))) resources
        (fun r => resource.Domain c token (.tableResource r)) package ∧ v = .package package
  termination_by structural n => n

/-- The values that one of the nodes describes. -/
def Node.SomeDomain (c : Context) (token : String → Prop) : List Node → Value → Prop
  | [] => fun _ => False
  | n :: rest => fun v => n.Domain c token v ∨ Node.SomeDomain c token rest v
  termination_by structural ns => ns

/-- One value for each node, which describes it. -/
def Node.EachDomain (c : Context) (token : String → Prop) : List Node → List Value → Prop
  | [] => fun vs => vs = []
  | n :: rest => fun vs => ∃ v more, n.Domain c token v ∧ Node.EachDomain c token rest more ∧
    vs = v :: more
  termination_by structural ns => ns

/-- The columns that the field groups describe, group after group. -/
def FieldGroups.Domain (c : Context) (token : String → Prop) : FieldGroups → List Field → Prop
  | .one node => fun fields => node.Domain c token (.seq (fields.map .field))
  | .many nodes => fun fields => ∃ groups : List (List Field),
    Node.EachDomain c token nodes (groups.map fun g => .seq (g.map .field)) ∧
      fields = groups.flatten
  termination_by structural g => g

end

section Lists

variable {c : Context} {token : String → Prop}

/-- The clause of a choice, read as a statement about the members of the list. -/
theorem Node.someDomain_iff {ns : List Node} {v : Value} :
    Node.SomeDomain c token ns v ↔ ∃ n ∈ ns, n.Domain c token v := by
  induction ns with
  | nil => simp [Node.SomeDomain]
  | cons n rest ih => simp only [Node.SomeDomain, ih, List.mem_cons, exists_eq_or_imp]

/-- The clause of a sequence, read as a relation between the nodes and the values, place by
    place. -/
theorem Node.eachDomain_iff {ns : List Node} {vs : List Value} :
    Node.EachDomain c token ns vs ↔ List.Forall₂ (fun n v => n.Domain c token v) ns vs := by
  induction ns generalizing vs with
  | nil => simp [Node.EachDomain]
  | cons n rest ih => simp only [Node.EachDomain, ih, List.forall₂_cons_left_iff]

end Lists

/-! ## Values of trees -/

section Trees

variable {c : Context} {token : String → Prop} {missing : Draw String}

mutual

/-- A checked node draws nothing but values that it describes.  By mutual induction on the node,
    its children and its field groups; each case puts the lemma about its part together with what
    the induction gives for the slots, and what the check says about ranges is all that is needed
    of it. -/
theorem Node.yields_domain (hmissing : Yields token missing) : ∀ (n : Node) (place : Place),
    n.WellFormed → Yields (n.Domain c token) (n.draw c missing place)
  | .word, _, _ => by
    rw [Node.draw, Node.Domain]
    exact .map (c.gives_word.mono fun _ w hw => ⟨w, hw, rfl⟩)
  | .words joiner count, _, hW => by
    rw [Node.WellFormed] at hW
    rw [Node.draw, Node.Domain]
    exact (gives_size hW.1).bind fun _ n hn =>
      .map ((c.yields_words joiner hn).mono fun _ t ht => ⟨t, ht, rfl⟩)
  | .integer min max, _, hW => by
    rw [Node.WellFormed] at hW
    rw [Node.draw, Node.Domain]
    exact .map ((gives_int_of_le hW).mono fun _ i hi => ⟨i, hi, rfl⟩)
  | .number min max, _, hW => by
    rw [Node.WellFormed] at hW
    rw [Node.draw, Node.Domain]
    exact .map ((yields_float hW).mono fun _ x hx => ⟨x, hx, rfl⟩)
  | .boolean prob, _, _ => by
    rw [Node.draw, Node.Domain]
    exact .map ((gives_chance prob).mono fun _ b _ => ⟨b, rfl⟩)
  | .interval start length, _, hW => by
    rw [Node.WellFormed] at hW
    rw [Node.draw, Node.Domain]
    refine (gives_interval hW.1 hW.2.1).bind fun _ ends hends => ?_
    obtain ⟨first, last⟩ := ends
    obtain ⟨n, hfirst, hn, hlast⟩ := hends
    exact .pure ⟨first, n, hfirst, hn, congrArg (Value.interval first) hlast⟩
  | .missingValueName (some style), _, _ => by
    rw [Node.draw, Node.Domain]
    exact .map ((c.yields_missingName style).mono fun _ t ht => ⟨t, ht, rfl⟩)
  | .missingValueName none, _, _ => by
    rw [Node.draw, Node.Domain]
    exact .map (hmissing.mono fun _ t ht => ⟨t, ht, rfl⟩)
  | .maybe prob child, place, hW => by
    rw [Node.WellFormed] at hW
    rw [Node.draw, Node.Domain]
    refine .map (((Node.yields_domain hmissing child _ hW.2).maybe _).mono fun _ o ho => ?_)
    cases o with
    | none => exact .inl rfl
    | some v => exact .inr (ho v rfl)
  | .choice children, place, hW => by
    rw [Node.WellFormed] at hW
    rw [Node.draw, Node.Domain]
    split
    · exact (Meets.sample (R := fun _ _ => True) fun _ => trivial).bind fun _ chosen _ =>
        Node.yields_nth hmissing children place 0 chosen hW.2
    · exact .throw trivial
  | .seq children distinct, place, hW => by
    rw [Node.WellFormed] at hW
    rw [Node.draw, Node.Domain]
    split
    · exact .throw_bind trivial
    · exact .map ((Node.yields_each hmissing children place distinct 0 hW.2).mono
        fun _ vs hvs => ⟨vs, hvs, rfl⟩)
  | .batch child count distinct, place, hW => by
    rw [Node.WellFormed] at hW
    rw [Node.draw, Node.Domain]
    refine (gives_size hW.1).bind fun _ n hn => ?_
    have hitem := c.yields_item (Node.yields_domain hmissing child (0 :: place) hW.2) (0 :: place)
      distinct
    exact .map ((hitem.times n).mono fun _ vs hvs => ⟨vs, hvs.2 ▸ hn, hvs.1, rfl⟩)
  | .unique child, place, hW => by
    rw [Node.WellFormed] at hW
    rw [Node.draw, Node.Domain]
    exact c.yields_uniqueInRun (Node.yields_domain hmissing child (0 :: place) hW) Value.key
  | .integerFieldType p missingName, place, hW => by
    rw [Node.WellFormed] at hW
    obtain ⟨-, hmin, hmax, hname, -⟩ := hW
    rw [Node.draw, Node.Domain]
    have htoken := (Node.yields_domain hmissing missingName (0 :: place) hname).text
    exact (c.yields_integerType htoken hmin hmax).bind fun _ t ht => .pure ⟨t, ht, rfl⟩
  | .numberFieldType p missingName, place, hW => by
    rw [Node.WellFormed] at hW
    obtain ⟨-, hmin, hmax, hname, -⟩ := hW
    rw [Node.draw, Node.Domain]
    have htoken := (Node.yields_domain hmissing missingName (0 :: place) hname).text
    exact (c.yields_numberType htoken hmin hmax).bind fun _ t ht => .pure ⟨t, ht, rfl⟩
  | .stringFieldType p missingName, place, hW => by
    rw [Node.WellFormed] at hW
    obtain ⟨-, hmin, hmax, hname, -⟩ := hW
    rw [Node.draw, Node.Domain]
    have htoken := (Node.yields_domain hmissing missingName (0 :: place) hname).text
    exact (c.yields_stringType htoken hmin hmax).bind fun _ t ht => .pure ⟨t, ht, rfl⟩
  | .enumIntegerFieldType p labelName missingName, place, hW => by
    rw [Node.WellFormed] at hW
    obtain ⟨-, hstart, hcount, hfit, hlabelName, -, hname, -⟩ := hW
    rw [Node.draw, Node.Domain]
    have hlabel := (Node.yields_domain hmissing labelName (0 :: place) hlabelName).text
    have htoken := (Node.yields_domain hmissing missingName (1 :: place) hname).text
    exact (c.yields_enumIntegerType hlabel htoken hstart hcount hfit).bind
      fun _ t ht => .pure ⟨t, ht, rfl⟩
  | .enumStringFieldType p labelName missingName, place, hW => by
    rw [Node.WellFormed] at hW
    obtain ⟨-, hcount, hlabelName, -, hname, -⟩ := hW
    rw [Node.draw, Node.Domain]
    have hlabel := (Node.yields_domain hmissing labelName (0 :: place) hlabelName).text
    have htoken := (Node.yields_domain hmissing missingName (1 :: place) hname).text
    exact (c.yields_enumStringType hlabel htoken hcount).bind fun _ t ht => .pure ⟨t, ht, rfl⟩
  | .metaGroup groupName count fieldName title description undefinedProb, place, hW => by
    rw [Node.WellFormed] at hW
    obtain ⟨-, hcount, hgroupName, -, hfieldName, -, htitleName, -, hdescriptionName, -⟩ := hW
    rw [Node.draw, Node.Domain]
    have hgroup := (Node.yields_domain hmissing groupName (0 :: place) hgroupName).text
    have hname := (Node.yields_domain hmissing fieldName (1 :: place) hfieldName).text
    have htitle := (Node.yields_domain hmissing title (2 :: place) htitleName).text
    have hdescription := (Node.yields_domain hmissing description (3 :: place) hdescriptionName).text
    exact (c.yields_metaGroup hcount undefinedProb hgroup hname htitle hdescription).bind
      fun _ metas hmetas => .pure ⟨metas, hmetas, rfl⟩
  | .fieldGroup groupMeta fieldType, place, hW
  | .likertFieldGroup groupMeta fieldType, place, hW => by
    rw [Node.WellFormed] at hW
    obtain ⟨hmetaNode, -, htypeNode, -⟩ := hW
    rw [Node.draw, Node.Domain]
    have hmetas := (Node.yields_domain hmissing groupMeta (0 :: place) hmetaNode).slot
      fun _ _ => Value.toFieldMetas_eq_ok
    have htype := (Node.yields_domain hmissing fieldType (1 :: place) htypeNode).slot
      fun _ _ => Value.toFieldType_eq_ok
    exact (c.yields_fieldGroup hmetas htype).bind fun _ fields hfields =>
      .pure ⟨fields, hfields, rfl⟩
  | .tableSchema fields rows missingName missingMax undefinedProb, place, hW => by
    rw [Node.WellFormed] at hW
    obtain ⟨-, hrows, hgroups, hname, -⟩ := hW
    rw [Node.draw, Node.Domain]
    have hfields := FieldGroups.yields_domain hmissing fields (0 :: place) hgroups
    have htoken := (Node.yields_domain hmissing missingName (1 :: place) hname).text
    have htokens := c.yields_missingValues htoken missingMax undefinedProb
    exact .map ((c.yields_tableSchema hfields htokens hrows).mono fun _ s hs => ⟨s, hs, rfl⟩)
  | .tableResource name description schema, place, hW => by
    rw [Node.WellFormed] at hW
    obtain ⟨hnameNode, -, hdescriptionNode, -, hschemaNode, -⟩ := hW
    rw [Node.draw, Node.Domain]
    have hname := (Node.yields_domain hmissing name (0 :: place) hnameNode).text
    have hdescription := (Node.yields_domain hmissing description (1 :: place) hdescriptionNode).slot
      fun _ _ => Value.toOptionalText_eq_ok
    have hschema := (Node.yields_domain hmissing schema (2 :: place) hschemaNode).slot
      fun _ _ => Value.toTableSchema_eq_ok
    exact .map ((c.yields_tableResource hname hdescription hschema).mono fun _ r hr => ⟨r, hr, rfl⟩)
  | .package name description resource resources, place, hW => by
    rw [Node.WellFormed] at hW
    obtain ⟨hcount, -, hnameNode, -, hdescriptionNode, -, hresourceNode, -⟩ := hW
    rw [Node.draw, Node.Domain]
    have hname := (Node.yields_domain hmissing name (0 :: place) hnameNode).text
    have hdescription := (Node.yields_domain hmissing description (1 :: place) hdescriptionNode).slot
      fun _ _ => Value.toOptionalText_eq_ok
    have hresource := (Node.yields_domain hmissing resource (2 :: place) hresourceNode).slot
      fun _ _ => Value.toTableResource_eq_ok
    exact .map ((c.yields_package hname hdescription hcount hresource).mono
      fun _ p hp => ⟨p, hp, rfl⟩)

/-- Whichever child is chosen, it is one of them. -/
theorem Node.yields_nth (hmissing : Yields token missing) : ∀ (ns : List Node) (place : Place)
    (index chosen : Nat), Node.AllWellFormed .any ns →
      Yields (Node.SomeDomain c token ns) (Node.drawNth c missing place index chosen ns)
  | [], _, _, _, _ => .throw trivial
  | n :: rest, place, index, chosen, hW => by
    rw [Node.AllWellFormed] at hW
    rw [Node.drawNth, Node.SomeDomain]
    split
    · exact (Node.yields_domain hmissing n _ hW.1).mono fun _ v hv => .inl hv
    · exact (Node.yields_nth hmissing rest place (index + 1) chosen hW.2.2).mono
        fun _ v hv => .inr hv

/-- One value for each child, whether or not it has to be new at its place.  By induction on the
    children, which hand the state on from one to the next. -/
theorem Node.yields_each (hmissing : Yields token missing) : ∀ (ns : List Node) (place : Place)
    (distinct : Bool) (index : Nat), Node.AllWellFormed .any ns →
      Yields (Node.EachDomain c token ns) (Node.drawEach c missing place distinct index ns)
  | [], _, _, _, _ => .pure rfl
  | n :: rest, place, distinct, index, hW => by
    rw [Node.AllWellFormed] at hW
    rw [Node.drawEach, Node.EachDomain]
    have hitem := c.yields_item (Node.yields_domain hmissing n (index :: place) hW.1)
      (index :: place) distinct
    have hrest := Node.yields_each hmissing rest place distinct (index + 1) hW.2.2
    have hvalues : ∀ v, n.Domain c token v → Yields (fun vs => ∃ v more, n.Domain c token v ∧
        Node.EachDomain c token rest more ∧ vs = v :: more)
        (do return v :: (← Node.drawEach c missing place distinct (index + 1) rest)) :=
      fun v hv => hrest.bind fun _ more hmore => .pure ⟨v, more, hv, hmore, rfl⟩
    -- either way the element is drawn by `hitem`, but the draw is written as two branches
    cases distinct with
    | true => exact hitem.bind fun _ v hv => hvalues v hv
    | false => exact hitem.bind fun _ v hv => hvalues v hv

/-- Columns of a schema, from one node for all groups or from one node a group.  The empty list of
    groups is refused by the draw itself. -/
theorem FieldGroups.yields_domain (hmissing : Yields token missing) : ∀ (g : FieldGroups)
    (place : Place), g.WellFormed → Yields (g.Domain c token) (g.draw c missing place)
  | .one node, place, hW => by
    rw [FieldGroups.WellFormed] at hW
    rw [FieldGroups.draw, FieldGroups.Domain]
    exact (Node.yields_domain hmissing node (0 :: place) hW.1).slot fun _ _ => Value.toFields_eq_ok
  | .many nodes, place, hW => by
    rw [FieldGroups.WellFormed] at hW
    rw [FieldGroups.draw, FieldGroups.Domain]
    split
    · exact .throw_bind trivial
    · exact (Node.yields_groups hmissing nodes place 0 hW.2).bind fun _ groups hgroups =>
        .pure ⟨groups, hgroups, rfl⟩

/-- One group of columns for each node, in their order; a node that gives anything else than columns
    ends the draw with an error. -/
theorem Node.yields_groups (hmissing : Yields token missing) : ∀ (ns : List Node) (place : Place)
    (index : Nat), Node.AllWellFormed Check.fieldSeq ns →
      Yields (fun groups => Node.EachDomain c token ns (groups.map fun g => .seq (g.map .field)))
        (Node.drawGroups c missing place index ns)
  | [], _, _, _ => .pure rfl
  | n :: rest, place, index, hW => by
    rw [Node.AllWellFormed] at hW
    rw [Node.drawGroups, Node.EachDomain]
    have hfields := (Node.yields_domain hmissing n (index :: place) hW.1).slot
      fun _ _ => Value.toFields_eq_ok
    have hmore := Node.yields_groups hmissing rest place (index + 1) hW.2.2
    exact hfields.bind fun _ fs hfs => hmore.bind fun _ groups hgroups =>
      .pure ⟨_, _, hfs, hgroups, rfl⟩

end

end Trees

/-! ## Runs -/

namespace Run

variable (r : Run)

/-- What stands for a missing value by default: a token of the style of the run, or what its own
    tree describes if that was checked; the tokens that this tree asks for in turn are negative
    integers. -/
def DefaultToken (text : String) : Prop :=
  match r.missing with
  | .style style => r.context.IsToken style text
  | .custom node =>
    node.check = .ok () → node.Domain r.context (r.context.IsToken .spss) (.text text)

/-- The name for a missing value by default is a token of the run's style, or what its own tree
    describes if that was checked. -/
theorem yields_defaultMissing : Yields r.DefaultToken r.defaultMissing := by
  unfold DefaultToken defaultMissing
  cases hmissing : r.missing with
  | style style => exact r.context.yields_missingName style
  | custom node =>
    -- of a tree that was not checked nothing is said, so any outcome will do
    by_cases hchecked : node.check = .ok ()
    · have hnode := Node.yields_domain (c := r.context) (r.context.yields_missingName .spss) node
        customPlace (Node.check_eq_ok_iff.mp hchecked)
      exact hnode.text.mono fun _ t ht _ => ht
    · have hany := r.gives_defaultMissing
      unfold defaultMissing at hany
      rw [hmissing] at hany
      exact hany.mono fun _ t _ h => absurd h hchecked

/-- Every value of a checked tree lies in the domain that the tree describes. -/
theorem draw_in_domain (number : Nat) {n : Node} (hn : n.check = .ok ()) :
    Ensures (n.Domain r.context r.DefaultToken) (r.draw number n) :=
  (Node.yields_domain r.yields_defaultMissing n (rootPlace number)
    (Node.check_eq_ok_iff.mp hn)).ensures

/-- A column of numbers that is drawn from a checked tree has finite bounds, in order if it has both;
    so what is known about its cells applies. -/
theorem draw_numberType_bounded (number : Nat) {p : NumberTypeParams} {missingName : Node}
    (hn : (Node.numberFieldType p missingName).check = .ok ()) :
    Ensures (fun v => ∃ t : NumberType, v = .fieldType (.number t) ∧ t.Bounded)
      (r.draw number (.numberFieldType p missingName)) := by
  have hwell := Node.check_eq_ok_iff.mp hn
  have hyields := Node.yields_domain (c := r.context) r.yields_defaultMissing _ (rootPlace number)
    hwell
  rw [Node.WellFormed] at hwell
  obtain ⟨-, hmin, hmax, -⟩ := hwell
  refine (hyields.mono fun _ v hv => ?_).ensures
  rw [Node.Domain] at hv
  obtain ⟨t, hdescribes, rfl⟩ := hv
  exact ⟨t, rfl, hdescribes.bounded hmin hmax⟩

/-- A run with two words. -/
def twoWordRun : Run := ⟨⟨"en_US", #["word", "name"], by decide, 1000, 0.5⟩, .style .underscore⟩

/-- An integer, some words unlike each other, and a column of texts. -/
def mixedTree : Node := .seq [
  .integer 3 9, .batch .word (.range 1 2) true, .stringFieldType {} Node.defaultMissingName] false

/-- From the seed 7, a run with the words "word" and "name" gives a value for the tree of an integer
    from 3 to 9, one or two words unlike each other and a column of texts; and the value is in the
    domain of that tree. -/
theorem draw_in_domain_mixedTree : mixedTree.check = .ok () ∧
    ∃ v, (twoWordRun.draw 0 mixedTree (.ofSeed 7)).1 = .ok v ∧
      mixedTree.Domain twoWordRun.context twoWordRun.DefaultToken v := by
  have hsome : (twoWordRun.draw 0 mixedTree (.ofSeed 7)).1.isOk = true := by decide +kernel
  cases hdraw : (twoWordRun.draw 0 mixedTree (.ofSeed 7)).1 with
  | error e =>
    rw [hdraw] at hsome
    cases hsome
  | ok v => exact ⟨rfl, v, rfl, twoWordRun.draw_in_domain 0 rfl (.ofSeed 7) v hdraw⟩

end Run

end SyntheticTables
