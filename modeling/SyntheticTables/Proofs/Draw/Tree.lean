/-
  What the draw of a whole tree gives.

  One induction over the nodes serves checked and unchecked trees alike.  Of any tree it follows the
  names of columns: those inside the value were handed out for it (`nameKeys v.columnNames`).  Of a
  checked tree it says on top of that that the value belongs to the declared type, that everything
  inside it is sound, and that only a search for a new value can fail: each slot gets a value of the
  type it was checked for, and each choice and each set of levels has a member.  The two readings are
  told apart by `checked`; an unchecked tree is one whose errors are all accepted.
-/
import SyntheticTables.Proofs.Draw.Part
import SyntheticTables.Proofs.Value.Typing

namespace SyntheticTables

open Draw

/-! ## Settings -/

/-- What a tree is drawn in: searches may be exhausted, tokens for missing values can be drawn, and
    either the tree was checked or every error is accepted. -/
structure Setting (E : GenError → Prop) (checked : Prop) (c : Context) (missing : Draw String) :
    Prop where
  exhausted : ∀ scope, E (.uniquenessExhausted scope c.attempts)
  missing : Gives E (fun _ => True) missing
  checked : checked ∨ ∀ e, E e

/-- The values of a draw belong to a type and are sound, if the tree was checked, and their columns
    have names that were handed out for them. -/
abbrev DrawsOf (E : GenError → Prop) (checked : Prop) (P : Value → Prop) (m : Draw Value) : Prop :=
  Carries E (fun v => nameKeys v.columnNames) (fun v => checked → P v ∧ v.Sound) m

variable {E : GenError → Prop} {checked : Prop} {c : Context} {missing : Draw String}

namespace Setting

/-- What a checked tree never does may end in any error. -/
theorem absurd_or_any (h : Setting E checked c missing) {e : GenError} (hnot : ¬ checked) : E e :=
  h.checked.elim (fun hc => absurd hc hnot) fun hany => hany e

/-! ## Leaves -/

/-- A leaf holds no columns, so it carries no keys; what is left to say is that its form has the
    declared type. -/
theorem leaf {α : Type} {d : Draw α} {form : α → Value} {P : Value → Prop} {Q : α → Prop}
    (hd : Gives E Q d) (hnames : ∀ a, (form a).columnNames = [])
    (hP : ∀ a, Q a → P (form a) ∧ (form a).Sound) :
    DrawsOf E checked P (form <$> d) := by
  refine .map (hd.mono fun new a ha => ⟨?_, fun _ => hP a ha⟩)
  show (nameKeys (form a).columnNames).Sublist new
  rw [hnames]
  exact List.nil_sublist new

/-! ## Slots -/

/-- A slot takes the form it needs out of the value of its child: a checked child declares a type
    whose values all have that form, so the conversion can only fail in a tree that was not
    checked. -/
theorem slot {α : Type} {convert : Value → Except GenError α} {form : α → Value}
    {expected : TypeDesc} {n : Node} {m : Draw Value} (h : Setting E checked c missing)
    (hconvert : ∀ v a, convert v = .ok a ↔ v = form a)
    (hforms : ∀ v, v.conforms expected = true → ∃ a, v = form a)
    (hfits : checked → n.Fits expected)
    (hm : DrawsOf E checked (fun v => v.conforms n.declaredType = true) m) :
    Carries E (fun a => nameKeys (form a).columnNames)
      (fun a => checked → (form a).conforms expected = true ∧ (form a).Sound) (m.as convert) := by
  refine .as hm fun new v hv => ?_
  have hexpected : checked → v.conforms expected = true := fun hc =>
    Value.conforms_of_satisfies (hv.2 hc).1 (hfits hc)
  cases hresult : convert v with
  | ok a =>
    have hform := (hconvert v a).mp hresult
    subst hform
    exact ⟨hv.1, fun hc => ⟨hexpected hc, (hv.2 hc).2⟩⟩
  | error e =>
    -- a checked child has the form, and then the conversion succeeds
    refine h.absurd_or_any fun hc => ?_
    obtain ⟨a, ha⟩ := hforms v (hexpected hc)
    rw [(hconvert v a).mpr ha] at hresult
    cases hresult

variable {n : Node} {m : Draw Value}

/-- The slots for texts: names, titles, labels and tokens.  Nothing further is asked of the text. -/
theorem textSlot (h : Setting E checked c missing) (hfits : checked → n.Fits Check.text)
    (hm : DrawsOf E checked (fun v => v.conforms n.declaredType = true) m) :
    Gives E (fun _ => True) (m.as Value.toText) :=
  (h.slot (fun _ _ => Value.toText_eq_ok) (fun _ => Value.eq_text) hfits hm).mono
    fun _ _ _ => trivial

/-- The slots for descriptions, which may have been left out. -/
theorem optionalTextSlot (h : Setting E checked c missing)
    (hfits : checked → n.Fits Check.optionalText)
    (hm : DrawsOf E checked (fun v => v.conforms n.declaredType = true) m) :
    Gives E (fun _ => True) (m.as Value.toOptionalText) := by
  refine (h.slot (fun _ _ => Value.toOptionalText_eq_ok) (fun v hv => ?_) hfits hm).mono
    fun _ _ _ => trivial
  rcases Value.eq_optionalText hv with rfl | ⟨s, rfl⟩
  · exact ⟨none, rfl⟩
  · exact ⟨some s, rfl⟩

/-- The slots for the names of columns: a sequence of them carries the keys of the names, none of
    which is empty in a checked tree. -/
theorem metaSlot (h : Setting E checked c missing) (hfits : checked → n.Fits Check.metaSeq)
    (hm : DrawsOf E checked (fun v => v.conforms n.declaredType = true) m) :
    Carries E (fun ms : List FieldMeta => nameKeys (ms.map (·.name)))
      (fun ms => ∀ i ∈ ms, checked → i.name ≠ "") (m.as Value.toFieldMetas) := by
  refine (h.slot (fun _ _ => Value.toFieldMetas_eq_ok) (fun _ => Value.eq_metaSeq) hfits hm).mono
    fun new ms hms => ⟨?_, fun i hi hc => Value.sound_metas.mp (hms.2 hc).2 i hi⟩
  have hkeys : (nameKeys (Value.seq (ms.map .fieldMeta)).columnNames).Sublist new := hms.1
  rwa [Value.columnNames_metas] at hkeys

/-- The slots for columns, which carry the keys of their names and are sound in a checked tree. -/
theorem fieldSlot (h : Setting E checked c missing) (hfits : checked → n.Fits Check.fieldSeq)
    (hm : DrawsOf E checked (fun v => v.conforms n.declaredType = true) m) :
    Carries E (fun fs : List Field => nameKeys (fs.map Field.name))
      (fun fs => ∀ f ∈ fs, checked → f.Sound) (m.as Value.toFields) := by
  refine (h.slot (fun _ _ => Value.toFields_eq_ok) (fun _ => Value.eq_fieldSeq) hfits hm).mono
    fun new fs hfs => ⟨?_, fun f hf hc => Value.sound_fields.mp (hfs.2 hc).2 f hf⟩
  have hkeys : (nameKeys (Value.seq (fs.map .field)).columnNames).Sublist new := hfs.1
  rwa [Value.columnNames_fields] at hkeys

/-- A slot for column types may want only some kinds of them. -/
theorem typeSlot {expected : TypeDesc} (h : Setting E checked c missing)
    (hforms : ∀ v : Value, v.conforms expected = true → ∃ t, v = .fieldType t)
    (hfits : checked → n.Fits expected)
    (hm : DrawsOf E checked (fun v => v.conforms n.declaredType = true) m) :
    Gives E (fun t => checked → t.Sound) (m.as Value.toFieldType) :=
  (h.slot (fun _ _ => Value.toFieldType_eq_ok) hforms hfits hm).mono
    fun _ _ ht hc => (ht.2 hc).2

/-- The slots for schemas. -/
theorem schemaSlot (h : Setting E checked c missing)
    (hfits : checked → n.Fits (.prim .tableSchema))
    (hm : DrawsOf E checked (fun v => v.conforms n.declaredType = true) m) :
    Carries E (fun s => nameKeys s.fieldNames) (fun s => checked → s.Sound)
      (m.as Value.toTableSchema) :=
  (h.slot (fun _ _ => Value.toTableSchema_eq_ok)
    (fun _ => Value.hasForm_of_conforms (n := .tableSchema) (by decide)) hfits hm).mono
    fun _ _ hs => ⟨hs.1, fun hc => (hs.2 hc).2⟩

/-- The slots for tables. -/
theorem resourceSlot (h : Setting E checked c missing)
    (hfits : checked → n.Fits (.prim .tableResource))
    (hm : DrawsOf E checked (fun v => v.conforms n.declaredType = true) m) :
    Carries E (fun r => nameKeys r.schema.fieldNames) (fun r => checked → r.Sound)
      (m.as Value.toTableResource) :=
  (h.slot (fun _ _ => Value.toTableResource_eq_ok)
    (fun _ => Value.hasForm_of_conforms (n := .tableResource) (by decide)) hfits hm).mono
    fun _ _ hr => ⟨hr.1, fun hc => (hr.2 hc).2⟩

/-- A draw whose values may have to be new at their place: what is rejected there has handed out its
    keys all the same. -/
theorem item {P : Value → Prop} (h : Setting E checked c missing) (place : Place) (distinct : Bool)
    (hm : DrawsOf E checked P m) :
    DrawsOf E checked P (if distinct then c.uniqueAt place m else m) := by
  cases distinct with
  | true => exact c.meets_uniqueAt (h.exhausted .generator) (Carries.grow _ _) hm
  | false => exact hm

/-- The columns of a group of fields, as a sequence: it carries the names that its metas carry, in
    their order, and is of the type of such sequences. -/
theorem fieldGroup {groupMeta : Draw (List FieldMeta)} {fieldType : Draw FieldType}
    (hmeta : Carries E (fun ms : List FieldMeta => nameKeys (ms.map (·.name)))
      (fun ms => ∀ i ∈ ms, checked → i.name ≠ "") groupMeta)
    (htype : Gives E (fun t => checked → t.Sound) fieldType) :
    DrawsOf E checked (fun v => v.conforms (.seq (.prim .field)) = true) (do
      let fields ← c.fieldGroup groupMeta fieldType
      return .seq (fields.map .field)) := by
  refine (c.carries_fieldGroup hmeta htype).bind fun old fs hfs =>
    .pure ⟨?_, fun hc => ⟨?_, Value.sound_fields.mpr fun f hf => ?_⟩⟩
  · show (nameKeys (Value.seq (fs.map .field)).columnNames).Sublist _
    rw [Value.columnNames_fields, List.append_nil]
    exact hfs.1
  · refine Value.conforms_seq.mpr ⟨_, rfl, fun v hv => ?_⟩
    obtain ⟨f, -, rfl⟩ := List.mem_map.mp hv
    rfl
  · exact ⟨(hfs.2 f hf).1 hc, (hfs.2 f hf).2 hc⟩

end Setting

/-! ## Trees -/

mutual

/-- The values of a node belong to its declared type, are sound, and carry the names of the columns
    in them; all of it from every state, by induction on the tree.  The two statements about types
    and about names need each other nowhere, but they go through the same cases. -/
theorem Node.drawsOf (h : Setting E checked c missing) : ∀ (n : Node) (place : Place),
    (checked → n.WellFormed) →
      DrawsOf E checked (fun v => v.conforms n.declaredType = true) (n.draw c missing place)
  | .word, _, _ => by
    rw [Node.draw]
    exact Setting.leaf c.gives_word (fun _ => rfl) fun _ _ => ⟨rfl, trivial⟩
  | .words joiner count, _, _ => by
    rw [Node.draw]
    refine Carries.after_gives (gives_size_any count) fun n _ => ?_
    exact Setting.leaf (c.gives_words joiner n) (fun _ => rfl) fun _ _ => ⟨rfl, trivial⟩
  | .integer min max, _, _ => by
    rw [Node.draw]
    exact Setting.leaf (gives_int min max) (fun _ => rfl) fun _ _ => ⟨rfl, trivial⟩
  | .number min max, _, _ => by
    rw [Node.draw]
    exact Setting.leaf (gives_float min max) (fun _ => rfl) fun _ _ => ⟨rfl, trivial⟩
  | .boolean prob, _, _ => by
    rw [Node.draw]
    exact Setting.leaf (gives_chance prob) (fun _ => rfl) fun _ _ => ⟨rfl, trivial⟩
  | .interval start length, _, _ => by
    rw [Node.draw]
    refine (gives_interval_any start length).bind fun _ ends _ => ?_
    obtain ⟨first, last⟩ := ends
    exact .pure ⟨List.nil_sublist _, fun _ => ⟨rfl, trivial⟩⟩
  | .missingValueName (some style), _, _ => by
    rw [Node.draw]
    exact Setting.leaf (c.gives_missingName style) (fun _ => rfl) fun _ _ => ⟨rfl, trivial⟩
  | .missingValueName none, _, _ => by
    rw [Node.draw]
    exact Setting.leaf h.missing (fun _ => rfl) fun _ _ => ⟨rfl, trivial⟩
  | .maybe prob child, place, hW => by
    simp only [Node.WellFormed, imp_and] at hW
    rw [Node.draw]
    refine .map (.maybe ⟨List.nil_sublist _, fun _ => ⟨?_, trivial⟩⟩ ?_)
    -- nothing at all belongs to the type because none is among its members
    · exact Value.conforms_unionOf.mpr ⟨.prim .none, by simp, rfl⟩
    · refine (Node.drawsOf h child _ hW.2).mono fun new v hv => ⟨hv.1, fun hc => ?_⟩
      obtain ⟨htype, hsound⟩ := hv.2 hc
      exact ⟨Value.conforms_unionOf.mpr ⟨_, List.mem_cons_self, htype⟩, hsound⟩
  | .choice children, place, hW => by
    simp only [Node.WellFormed, imp_and] at hW
    obtain ⟨hsome, hchildren⟩ := hW
    rw [Node.draw]
    split
    · rename_i hpos
      refine Carries.after_gives (Q := fun i => i < children.length)
        (.sample fun s => Sample.index_lt hpos s) fun i hi => ?_
      have hchosen : i < 0 + children.length := by omega
      refine (Node.drawsOf_nth h children place 0 i hchildren (Nat.zero_le i) hchosen).mono
        fun new v hv => ⟨hv.1, fun hc => ?_⟩
      obtain ⟨htype, hsound⟩ := hv.2 hc
      exact ⟨Value.conforms_unionOf.mpr htype, hsound⟩
    · -- a checked choice has a child
      rename_i hnone
      refine .throw (h.absurd_or_any fun hc => hsome hc ?_)
      exact List.length_eq_zero_iff.mp (Nat.eq_zero_of_not_pos hnone)
  | .seq children distinct, place, hW => by
    simp only [Node.WellFormed, imp_and] at hW
    obtain ⟨hsome, hchildren⟩ := hW
    rw [Node.draw]
    split
    · rename_i hempty
      exact .throw_bind (h.absurd_or_any fun hc => hsome hc (List.isEmpty_iff.mp hempty))
    · refine .map ((Node.carries_each h children place distinct 0 hchildren).mono
        fun new vs hvs => ⟨hvs.1, fun hc => ⟨?_, ?_⟩⟩)
      · refine Value.conforms_seq.mpr ⟨vs, rfl, fun v hv => ?_⟩
        exact Value.conforms_unionOf.mpr (hvs.2 hc v hv).1
      · exact Value.allSound_iff.mpr fun v hv => (hvs.2 hc v hv).2
  | .batch child count distinct, place, hW => by
    simp only [Node.WellFormed, imp_and] at hW
    rw [Node.draw]
    refine Carries.after_gives (gives_size_any count) fun n _ => ?_
    have hitem := h.item (0 :: place) distinct (Node.drawsOf h child (0 :: place) hW.2)
    refine .map ((hitem.times n).mono fun new vs hvs => ⟨?_, fun hc => ⟨?_, ?_⟩⟩)
    · show (nameKeys (Value.seq vs).columnNames).Sublist _
      rw [Value.columnNames, Value.allColumnNames_eq, nameKeys, List.map_flatMap]
      exact hvs.1
    · exact Value.conforms_seq.mpr ⟨vs, rfl, fun v hv => (hvs.2.1 v hv hc).1⟩
    · exact Value.allSound_iff.mpr fun v hv => (hvs.2.1 v hv hc).2
  | .unique child, place, hW => by
    simp only [Node.WellFormed] at hW
    rw [Node.draw]
    refine (c.meets_uniqueInRun (h.exhausted .run) (Carries.grow _ _)
      (Node.drawsOf h child (0 :: place) hW)).mono ?_
    -- the key of the value itself comes after those of its columns
    rintro _ v ⟨before, rfl, hv⟩
    exact ⟨hv.1.trans (List.sublist_append_left before _), hv.2⟩
  | .integerFieldType p missingName, place, hW => by
    simp only [Node.WellFormed, imp_and] at hW
    obtain ⟨-, -, -, hname, hfits⟩ := hW
    rw [Node.draw]
    have hmissing := h.textSlot hfits (Node.drawsOf h missingName (0 :: place) hname)
    refine (c.gives_integerType hmissing (h.exhausted .generator) p).bind fun _ t ht => ?_
    exact .pure ⟨List.nil_sublist _, fun _ => ⟨rfl, ht⟩⟩
  | .numberFieldType p missingName, place, hW => by
    simp only [Node.WellFormed, imp_and] at hW
    obtain ⟨-, -, -, hname, hfits⟩ := hW
    rw [Node.draw]
    have hmissing := h.textSlot hfits (Node.drawsOf h missingName (0 :: place) hname)
    refine (c.gives_numberType hmissing (h.exhausted .generator) p).bind fun _ t ht => ?_
    exact .pure ⟨List.nil_sublist _, fun _ => ⟨rfl, ht⟩⟩
  | .stringFieldType p missingName, place, hW => by
    simp only [Node.WellFormed, imp_and] at hW
    obtain ⟨-, -, -, hname, hfits⟩ := hW
    rw [Node.draw]
    have hmissing := h.textSlot hfits (Node.drawsOf h missingName (0 :: place) hname)
    refine (c.gives_stringType hmissing (h.exhausted .generator) p).bind fun _ t ht => ?_
    exact .pure ⟨List.nil_sublist _, fun _ => ⟨rfl, ht⟩⟩
  | .enumIntegerFieldType p labelName missingName, place, hW => by
    simp only [Node.WellFormed, imp_and] at hW
    obtain ⟨-, hstart, hcount, hfit, hlabelName, hlabelFits, hname, hfits⟩ := hW
    rw [Node.draw]
    have hlabel := h.textSlot hlabelFits (Node.drawsOf h labelName (0 :: place) hlabelName)
    have hmissing := h.textSlot hfits (Node.drawsOf h missingName (1 :: place) hname)
    refine (c.gives_enumIntegerType hlabel hmissing (h.exhausted .generator) p).bind
      fun _ t ht => .pure ⟨List.nil_sublist _, fun hc => ⟨rfl, ?_⟩⟩
    exact ht (hstart hc) (hcount hc) (hfit hc)
  | .enumStringFieldType p labelName missingName, place, hW => by
    simp only [Node.WellFormed, imp_and] at hW
    obtain ⟨-, hcount, hlabelName, hlabelFits, hname, hfits⟩ := hW
    rw [Node.draw]
    have hlabel := h.textSlot hlabelFits (Node.drawsOf h labelName (0 :: place) hlabelName)
    have hmissing := h.textSlot hfits (Node.drawsOf h missingName (1 :: place) hname)
    refine (c.gives_enumStringType hlabel hmissing (h.exhausted .generator) p).bind
      fun _ t ht => .pure ⟨List.nil_sublist _, fun hc => ⟨rfl, ?_⟩⟩
    exact ht (hcount hc)
  | .metaGroup groupName count fieldName title description undefinedProb, place, hW => by
    simp only [Node.WellFormed, imp_and] at hW
    obtain ⟨-, -, hgroupName, hgroupFits, hfieldName, hfieldFits, hW⟩ := hW
    obtain ⟨htitleName, htitleFits, hdescriptionName, hdescriptionFits⟩ := hW
    rw [Node.draw]
    have hgroup := h.textSlot hgroupFits (Node.drawsOf h groupName (0 :: place) hgroupName)
    have hfield := h.textSlot hfieldFits (Node.drawsOf h fieldName (1 :: place) hfieldName)
    have htitle := h.textSlot htitleFits (Node.drawsOf h title (2 :: place) htitleName)
    have hdescription := h.textSlot hdescriptionFits
      (Node.drawsOf h description (3 :: place) hdescriptionName)
    refine (c.carries_metaGroup (h.exhausted .run) hgroup hfield htitle hdescription).bind
      fun old ms hms => .pure ⟨?_, fun _ => ⟨?_, Value.sound_metas.mpr hms.2⟩⟩
    · show (nameKeys (Value.seq (ms.map .fieldMeta)).columnNames).Sublist _
      rw [Value.columnNames_metas, List.append_nil]
      exact hms.1
    · refine Value.conforms_seq.mpr ⟨_, rfl, fun v hv => ?_⟩
      obtain ⟨m, -, rfl⟩ := List.mem_map.mp hv
      rfl
  | .fieldGroup groupMeta fieldType, place, hW => by
    simp only [Node.WellFormed, imp_and] at hW
    obtain ⟨hmetaNode, hmetaFits, htypeNode, htypeFits⟩ := hW
    rw [Node.draw]
    have hmeta := h.metaSlot hmetaFits (Node.drawsOf h groupMeta (0 :: place) hmetaNode)
    have htype := h.typeSlot (fun _ => Value.eq_fieldType) htypeFits
      (Node.drawsOf h fieldType (1 :: place) htypeNode)
    exact Setting.fieldGroup hmeta htype
  | .likertFieldGroup groupMeta fieldType, place, hW => by
    simp only [Node.WellFormed, imp_and] at hW
    obtain ⟨hmetaNode, hmetaFits, htypeNode, htypeFits⟩ := hW
    rw [Node.draw]
    have hforms : ∀ v : Value, v.conforms (.prim .integerFieldType) = true →
        ∃ t, v = .fieldType t := by
      intro v hv
      obtain ⟨t, rfl⟩ := Value.hasForm_of_conforms (by decide) hv
      exact ⟨_, rfl⟩
    have hmeta := h.metaSlot hmetaFits (Node.drawsOf h groupMeta (0 :: place) hmetaNode)
    have htype := h.typeSlot hforms htypeFits (Node.drawsOf h fieldType (1 :: place) htypeNode)
    exact Setting.fieldGroup hmeta htype
  | .tableSchema fields rows missingName missingMax undefinedProb, place, hW => by
    simp only [Node.WellFormed, imp_and] at hW
    obtain ⟨-, -, hgroups, hname, hfits⟩ := hW
    rw [Node.draw]
    have hfields := FieldGroups.carries h fields (0 :: place) hgroups
    have hmissing := c.gives_missingValues
      (h.textSlot hfits (Node.drawsOf h missingName (1 :: place) hname)) (h.exhausted .generator)
      missingMax undefinedProb
    refine .map ((c.carries_tableSchema hfields hmissing).mono fun new s hs => ?_)
    obtain ⟨hkeys, hdistinct, hsound⟩ := hs
    exact ⟨hkeys, fun hc => ⟨rfl, fun f hf => hsound f hf hc, hdistinct⟩⟩
  | .tableResource name description schema, place, hW => by
    simp only [Node.WellFormed, imp_and] at hW
    obtain ⟨hnameNode, hnameFits, hdescriptionNode, hdescriptionFits, hschemaNode, hschemaFits⟩ := hW
    rw [Node.draw]
    have hname := h.textSlot hnameFits (Node.drawsOf h name (0 :: place) hnameNode)
    have hdescription := h.optionalTextSlot hdescriptionFits
      (Node.drawsOf h description (1 :: place) hdescriptionNode)
    have hschema := h.schemaSlot hschemaFits (Node.drawsOf h schema (2 :: place) hschemaNode)
    refine .map ((c.carries_tableResource hname hdescription hschema ?_).mono fun new r hr => ?_)
    · -- the levels of a checked tree are there to draw from
      intro s hs f hf hinvalid
      exact h.absurd_or_any fun hc => hinvalid ((hs hc).fields f hf).typed.valid
    · obtain ⟨hkeys, hschema, hsound⟩ := hr
      exact ⟨hkeys, fun hc => ⟨rfl, hsound (hschema hc)⟩⟩
  | .package name description resource resources, place, hW => by
    simp only [Node.WellFormed, imp_and] at hW
    obtain ⟨-, -, hnameNode, hnameFits, hdescriptionNode, hdescriptionFits, hW⟩ := hW
    rw [Node.draw]
    have hname := h.textSlot hnameFits (Node.drawsOf h name (0 :: place) hnameNode)
    have hdescription := h.optionalTextSlot hdescriptionFits
      (Node.drawsOf h description (1 :: place) hdescriptionNode)
    have hresource := h.resourceSlot hW.2 (Node.drawsOf h resource (2 :: place) hW.1)
    exact .map ((c.carries_package hname hdescription hresource).mono fun new p hp =>
      ⟨hp.1, fun hc => ⟨rfl, fun r hr => hp.2 r hr hc⟩⟩)

/-- The chosen child is one of the children, so its value belongs to the type of one of them, which
    is all that a union asks for. -/
theorem Node.drawsOf_nth (h : Setting E checked c missing) : ∀ (ns : List Node) (place : Place)
    (index chosen : Nat), (checked → Node.AllWellFormed .any ns) → index ≤ chosen →
      chosen < index + ns.length →
      DrawsOf E checked (fun v => ∃ t ∈ Node.declaredTypes ns, v.conforms t = true)
        (Node.drawNth c missing place index chosen ns)
  | [], _, index, chosen, _, hle, hlt => absurd hlt (Nat.not_lt.mpr hle)
  | n :: rest, place, index, chosen, hW, hle, hlt => by
    simp only [Node.AllWellFormed, imp_and] at hW
    obtain ⟨hn, -, hrest⟩ := hW
    rw [List.length_cons] at hlt
    rw [Node.drawNth]
    split
    · refine (Node.drawsOf h n _ hn).mono fun new v hv => ⟨hv.1, fun hc => ?_⟩
      obtain ⟨htype, hsound⟩ := hv.2 hc
      exact ⟨⟨_, List.mem_cons_self, htype⟩, hsound⟩
    · refine (Node.drawsOf_nth h rest place (index + 1) chosen hrest (by omega) (by omega)).mono
        fun new v hv => ⟨hv.1, fun hc => ?_⟩
      obtain ⟨⟨t, ht, htype⟩, hsound⟩ := hv.2 hc
      exact ⟨⟨t, List.mem_cons_of_mem _ ht, htype⟩, hsound⟩

/-- Each child draws a value of its own type, and all of them carry the keys of their columns, in
    the order of the children. -/
theorem Node.carries_each (h : Setting E checked c missing) : ∀ (ns : List Node) (place : Place)
    (distinct : Bool) (index : Nat), (checked → Node.AllWellFormed .any ns) →
      Carries E (fun vs => nameKeys (Value.allColumnNames vs))
        (fun vs => checked → ∀ v ∈ vs,
          (∃ t ∈ Node.declaredTypes ns, v.conforms t = true) ∧ v.Sound)
        (Node.drawEach c missing place distinct index ns)
  | [], _, _, _, _ => .pure ⟨List.nil_sublist _, fun _ _ hv => absurd hv List.not_mem_nil⟩
  | n :: rest, place, distinct, index, hW => by
    simp only [Node.AllWellFormed, imp_and] at hW
    obtain ⟨hn, -, hrest⟩ := hW
    rw [Node.drawEach]
    have hitem := h.item (index :: place) distinct (Node.drawsOf h n (index :: place) hn)
    -- the draw asks for `distinct` before it draws the item, the lemma within the item
    suffices hbind : Carries E _ _ ((if distinct then c.uniqueAt (index :: place)
        (n.draw c missing (index :: place)) else n.draw c missing (index :: place)) >>= fun v => do
          let vs ← Node.drawEach c missing place distinct (index + 1) rest
          return v :: vs) by
      cases distinct <;> exact hbind
    refine hitem.bind fun old v hv => ?_
    refine (Node.carries_each h rest place distinct (index + 1) hrest).bind
      fun new vs hvs => .pure ⟨?_, fun hc u hu => ?_⟩
    · show (nameKeys (v.columnNames ++ Value.allColumnNames vs)).Sublist (old ++ (new ++ []))
      rw [nameKeys, List.map_append, List.append_nil]
      exact hv.1.append hvs.1
    · rcases List.mem_cons.mp hu with rfl | hu
      · obtain ⟨htype, hsound⟩ := hv.2 hc
        exact ⟨⟨_, List.mem_cons_self, htype⟩, hsound⟩
      · obtain ⟨⟨t, ht, htype⟩, hsound⟩ := hvs.2 hc u hu
        exact ⟨⟨t, List.mem_cons_of_mem _ ht, htype⟩, hsound⟩

/-- The columns of the field groups of a schema, which are put together in the order of the groups.
    A list without groups is an error, one that the check excludes. -/
theorem FieldGroups.carries (h : Setting E checked c missing) : ∀ (g : FieldGroups)
    (place : Place), (checked → g.WellFormed) →
      Carries E (fun fs => nameKeys (fs.map Field.name)) (fun fs => ∀ f ∈ fs, checked → f.Sound)
        (FieldGroups.draw c missing place g)
  | .one node, place, hW => by
    simp only [FieldGroups.WellFormed, imp_and] at hW
    rw [FieldGroups.draw]
    exact h.fieldSlot hW.2 (Node.drawsOf h node _ hW.1)
  | .many nodes, place, hW => by
    simp only [FieldGroups.WellFormed, imp_and] at hW
    obtain ⟨hsome, hnodes⟩ := hW
    rw [FieldGroups.draw]
    split
    · rename_i hempty
      exact .throw_bind (h.absurd_or_any fun hc => hsome hc (List.isEmpty_iff.mp hempty))
    · refine (Node.carries_groups h nodes place 0 hnodes).bind fun old groups hgroups =>
        .pure ⟨?_, hgroups.2⟩
      rw [List.append_nil]
      exact hgroups.1

/-- The columns of each group of a list, by induction on the list. -/
theorem Node.carries_groups (h : Setting E checked c missing) : ∀ (ns : List Node)
    (place : Place) (index : Nat), (checked → Node.AllWellFormed Check.fieldSeq ns) →
      Carries E (fun groups => nameKeys (groups.flatten.map Field.name))
        (fun groups => ∀ f ∈ groups.flatten, checked → f.Sound)
        (Node.drawGroups c missing place index ns)
  | [], _, _, _ => .pure ⟨List.nil_sublist _, fun _ hf => absurd hf List.not_mem_nil⟩
  | n :: rest, place, index, hW => by
    simp only [Node.AllWellFormed, imp_and] at hW
    obtain ⟨hn, hfits, hrest⟩ := hW
    rw [Node.drawGroups]
    refine (h.fieldSlot hfits (Node.drawsOf h n _ hn)).bind fun old fs hfs => ?_
    -- the names of this group were handed out before those of the others
    refine (Node.carries_groups h rest place (index + 1) hrest).bind
      fun new groups hgroups => .pure ⟨?_, fun f hf => ?_⟩
    · show (nameKeys ((fs ++ groups.flatten).map Field.name)).Sublist (old ++ (new ++ []))
      rw [nameKeys, List.map_append, List.map_append, List.append_nil]
      exact hfs.1.append hgroups.1
    · rw [List.flatten_cons, List.mem_append] at hf
      exact hf.elim (hfs.2 f) (hgroups.2 f)

end

end SyntheticTables
