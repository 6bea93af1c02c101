/-
  Refused trees.

  A tree is refused for one seat: the node in it is at fault, or its values do not fit there.
  Whatever comes before that seat in the traversal passes (`Seat.exists_culprit`), and the way that
  is reported leads to the culprit in the document of the tree (`Node.check_error_located`).
-/
import SyntheticTables.Proofs.Config.Fault

namespace SyntheticTables

/-! ## Seats that pass -/

/-- The node passes the check on its own and fits. -/
def Seat.Passes (s : Seat) : Prop := s.node.check = .ok () ∧ s.node.Fits s.expected

/-- A slot refuses a child whose type does not fit, and reports both types. -/
theorem Check.expect_eq_error_iff {path : NodePath} {expected : TypeDesc} {n : Node}
    {e : CheckError} : expect path expected n = .error e ↔
      ¬n.Fits expected ∧ .typeMismatch path expected n.declaredType = e := by
  unfold expect Node.Fits
  split <;> simp [*]

namespace Seat

variable {path : NodePath} {seats : List Seat}

/-- The check of a seat accepts what passes there, wherever the seat is. -/
theorem check_eq_ok_iff {s : Seat} : s.check path = .ok () ↔ s.Passes := by
  rw [check, seq_eq_ok_iff, Node.checkAt_eq_ok_iff, Check.expect_eq_ok_iff, Passes,
    Node.check_eq_ok_iff]

/-- Several seats are accepted if each passes. -/
theorem forM_check_eq_ok_iff : seats.forM (check path) = .ok () ↔ ∀ s ∈ seats, s.Passes := by
  induction seats with
  | nil => exact iff_of_true rfl nofun
  | cons s rest ih =>
    rw [List.forM_eq_forM, List.forM_cons, seq_eq_ok_iff, ← List.forM_eq_forM, ih, check_eq_ok_iff,
      List.forall_mem_cons]

/-- Of several seats the first that does not pass is reported: those before it pass, and those
    behind it are not looked at. -/
theorem exists_of_forM_check_eq_error {e : CheckError} (h : seats.forM (check path) = .error e) :
    ∃ before s after, seats = before ++ s :: after ∧ (∀ b ∈ before, b.Passes) ∧
      s.check path = .error e := by
  induction seats with
  | nil => cases h
  | cons s rest ih =>
    rw [List.forM_eq_forM, List.forM_cons] at h
    cases hs : s.check path with
    | error cause =>
      rw [hs] at h
      exact ⟨[], s, rest, rfl, nofun, hs.trans h⟩
    | ok u =>
      rw [hs] at h
      obtain ⟨before, c, after, rfl, hbefore, hc⟩ := ih h
      exact ⟨s :: before, c, after, rfl,
        List.forall_mem_cons.mpr ⟨check_eq_ok_iff.mp hs, hbefore⟩, hc⟩

end Seat

/-- A node passes when nothing is wrong with it and the seats below pass. -/
theorem Node.passes_iff {n : Node} :
    n.check = .ok () ↔ n.faults = [] ∧ ∀ s ∈ n.seats, s.Passes := by
  rw [check, checkAt_eq, Faults.report_eq_ok_iff, Seat.forM_check_eq_ok_iff]

namespace Seat

/-- If a seat passes, all seats below it do.  By induction on the seats. -/
theorem Passes.traversal {s : Seat} (h : s.Passes) : ∀ r ∈ s.traversal, r.Passes := by
  induction s using Seat.induction with
  | h s ih =>
    intro r hr
    obtain rfl | ⟨top, htop, hr⟩ := mem_traversal_iff.mp hr
    · exact h
    · exact ih top htop ((Node.passes_iff.mp h.1).2 top htop) r hr

/-! ## Culprits -/

/-- What the check reports of a seat. -/
inductive Reports (path : NodePath) (s : Seat) : CheckError → Prop where
  | misfit (hnode : s.node.check = .ok ()) (hfits : ¬s.node.Fits s.expected) :
    Reports path s (.typeMismatch (path ++ s.way) s.expected s.node.declaredType)
  | fault {way : NodePath} {fault : Fault} (h : s.node.faults.head? = some (way, fault)) :
    Reports path s (.invalid (path ++ s.way ++ way) fault)

/-- The check has passed a seat before it comes to a later one: nothing is wrong with the node, and
    unless the later seat stands below, the check is done with all of it. -/
structure PassedBefore (s later : Seat) : Prop where
  faults : s.node.faults = []
  passes : later ∈ s.traversal ∨ s.Passes

theorem Passes.passedBefore {s later : Seat} (h : s.Passes) : s.PassedBefore later :=
  ⟨(Node.passes_iff.mp h.1).1, .inr h⟩

/-- The check of a seat fails for the seat itself or for the first one below that does not pass.
    The order is that of the check: faults of the node, then the seats below, then whether the node
    fits. -/
theorem reports_or_below {path : NodePath} {s : Seat} {e : CheckError}
    (h : s.check path = .error e) :
    s.Reports path e ∨ s.node.faults = [] ∧ ∃ before top after,
      s.node.seats = before ++ top :: after ∧ (∀ b ∈ before, b.Passes) ∧
      (top.under s.way).check path = .error e := by
  rw [check, Node.checkAt_eq] at h
  -- the node's own values are checked before anything below it
  cases hfaults : s.node.faults with
  | cons f more =>
    rw [hfaults] at h
    obtain rfl : CheckError.invalid (path ++ s.way ++ f.1) f.2 = e := Except.error.inj h
    exact .inl (.fault (by rw [hfaults]; rfl))
  | nil =>
    rw [hfaults, Faults.report_nil] at h
    -- then what stands below, and the expected type last
    cases hbelow : s.node.seats.forM (check (path ++ s.way)) with
    | error cause =>
      rw [hbelow] at h
      obtain rfl : cause = e := Except.error.inj h
      obtain ⟨before, top, after, hseats, hbefore, htop⟩ := exists_of_forM_check_eq_error hbelow
      refine .inr ⟨rfl, before, top, after, hseats, hbefore, ?_⟩
      rw [check, List.append_assoc] at htop
      exact htop
    | ok u =>
      rw [hbelow] at h
      have hnode : s.node.check = .ok () :=
        Node.passes_iff.mpr ⟨hfaults, forM_check_eq_ok_iff.mp hbelow⟩
      obtain ⟨hfits, rfl⟩ := Check.expect_eq_error_iff.mp h
      exact .inl (.misfit hnode hfits)

/-- A seat that does not pass is refused for a seat that all seats before it have passed.  By
    induction on the seats: a culprit below is found among those of the seat that leads to it. -/
theorem exists_culprit {path : NodePath} {s : Seat} {e : CheckError} (h : s.check path = .error e) :
    ∃ before culprit after, s.traversal = before ++ culprit :: after ∧
      (∀ b ∈ before, b.PassedBefore culprit) ∧ culprit.Reports path e := by
  induction s using Seat.induction with
  | h s ih =>
    obtain hself | ⟨hfaults, before, top, after, hseats, hbefore, htop⟩ := reports_or_below h
    · exact ⟨[], s, _, rfl, nofun, hself⟩
    · have hmem : top ∈ s.node.seats := by rw [hseats]; simp
      obtain ⟨earlier, culprit, later, htraversal, hearlier, hreports⟩ := ih top hmem htop
      -- what was looked at earlier: the seat itself, all below the seats before `top`, and what the
      -- induction gives below `top`
      refine ⟨s :: before.flatMap (fun b => (b.under s.way).traversal) ++ earlier, culprit,
        later ++ after.flatMap fun b => (b.under s.way).traversal, ?_, ?_, hreports⟩
      · rw [traversal_eq, hseats, List.flatMap_map, List.flatMap_append, List.flatMap_cons,
          htraversal]
        simp
      · -- the culprit stands below the seat, and the check is done with the seats in between
        have hculprit : culprit ∈ (top.under s.way).traversal := by rw [htraversal]; simp
        have hself : s.PassedBefore culprit :=
          ⟨hfaults, .inl (mem_traversal_iff.mpr (.inr ⟨top, hmem, hculprit⟩))⟩
        have hdone : ∀ b ∈ before.flatMap fun b => (b.under s.way).traversal,
            b.PassedBefore culprit := by
          intro r hr
          obtain ⟨b, hb, hr⟩ := List.mem_flatMap.mp hr
          have hunder : (b.under s.way).Passes := hbefore b hb
          exact (hunder.traversal r hr).passedBefore
        exact List.forall_mem_append.mpr ⟨List.forall_mem_cons.mpr ⟨hself, hdone⟩, hearlier⟩

end Seat

/-! ## The reported way -/

/-- What a text leads to in a document: a single slash stands for all of it, any other text is a
    pointer. -/
def Json.located? (text : String) (j : Json) : Option Json :=
  if text = "/" then some j else j.pointer? text

/-- The text of a plain way leads to where its steps lead; the root is no exception. -/
theorem NodePath.located?_text {way : NodePath} (h : way.IsPlain) (j : Json) :
    j.located? way.text = j.descend? (way.map PathStep.text) := by
  cases way with
  | nil => rfl
  | cons step rest =>
    rw [Json.located?, if_neg (text_ne_slash (List.cons_ne_nil _ _) h),
      pointer?_text (List.cons_ne_nil _ _) h]

namespace Node

/-- The parts of a node that a fault can be reported at: all of it, or one argument. -/
inductive HasPart (n : Node) : NodePath → Json → Prop where
  | whole : n.HasPart [] n.toJson.decoded
  | argument {a : String × Argument} (h : a ∈ n.arguments) :
    n.HasPart [.slot a.1] a.2.toJson.decoded

/-- A range is reported at a parameter that the node has, be it the range or its upper end. -/
theorem HasRange.exists_argument {n : Node} {name : String} {range low high : Argument}
    (h : n.HasRange name range low high) : ∃ a, (name, a) ∈ n.arguments := by
  cases h with
  | whole h => exact ⟨_, h⟩
  | ends _ _ _ hhigh => exact ⟨_, hhigh⟩

/-- Every fault is reported at a part of its node, either at one of its parameters or at the node
    itself, so that the way to it leads somewhere in the document. -/
theorem AtFault.exists_part {n : Node} {way : NodePath} {fault : Fault} (h : n.AtFault way fault) :
    ∃ doc, n.HasPart way doc := by
  have hargument : ∀ {name : String} {a : Argument}, (name, a) ∈ n.arguments →
      ∃ doc, n.HasPart [.slot name] doc := fun ha => ⟨_, .argument ha⟩
  cases h with
  | noChildren => exact ⟨_, .whole⟩
  | noFieldGroups h | noResources h | noWords h | noLevels h | levelsOverflow h
  | negativeLength h | negativeIntervalLength h | invertedSizes h => exact hargument h
  | notFinite h | invertedInts h | invertedFloats h =>
    obtain ⟨a, ha⟩ := HasRange.exists_argument h
    exact hargument ha
  | notAProbability h => exact h.elim hargument hargument

/-- The check of a tree is the check of its root, where any type fits. -/
theorem check_root (t : Node) : t.root.check [] = t.check := by
  show (t.check >>= fun _ => Check.expect [] .any t) = t.check
  simp [Check.expect_any]

/-- The text of the way to a seat is a pointer to the document of the node in it. -/
theorem pointer?_of_mem_descent {t : Node} {s : Seat} (hs : s ∈ t.descent) :
    t.toJson.decoded.pointer? s.way.text = some s.node.toJson.decoded := by
  obtain ⟨hne, hplain⟩ := isPlain_of_mem_descent hs
  rw [NodePath.pointer?_text hne hplain, descend?_of_mem_descent hs]

/-- Where the way to a seat leads in the document of the tree. -/
theorem descend?_of_mem_traversal {t : Node} {s : Seat} (hs : s ∈ t.root.traversal) :
    s.way.IsPlain ∧
      t.toJson.decoded.descend? (s.way.map PathStep.text) = some s.node.toJson.decoded := by
  rw [traversal_root] at hs
  rcases List.mem_cons.mp hs with rfl | hs
  · exact ⟨nofun, rfl⟩
  · exact ⟨(isPlain_of_mem_descent hs).2, descend?_of_mem_descent hs⟩

/-- The way to a part of a node leads to the document of that part. -/
theorem located?_part {t : Node} {s : Seat} {way : NodePath} {doc : Json}
    (hs : s ∈ t.root.traversal) (hpart : s.node.HasPart way doc) :
    t.toJson.decoded.located? (NodePath.text (s.way ++ way)) = some doc := by
  obtain ⟨hplain, hnode⟩ := descend?_of_mem_traversal hs
  cases hpart with
  | whole => rw [List.append_nil, NodePath.located?_text hplain, hnode]
  | @argument a ha =>
    rw [NodePath.located?_text (NodePath.isPlain_append.mpr ⟨hplain, isPlain_argument ha⟩),
      List.map_append, Json.descend?_append, hnode]
    show (s.node.toJson.decoded.step? a.1).bind _ = _
    rw [step?_document ha]
    rfl

/-- An error leads to its culprit.  The way is a single slash or a pointer that resolves in the
    document of the tree.  For a type that does not fit it leads to a node below the root that
    passes the check on its own, has the type that is reported and not the one that its seat
    expects.  For a fault it leads to a node or to a parameter of it with which just this is wrong,
    first of all that the check looks for there, and whatever comes before that node passes. -/
theorem check_error_located {t : Node} {e : CheckError} (h : t.check = .error e) :
    (e.path.text = "/" ∨ (t.toJson.decoded.pointer? e.path.text).isSome) ∧
    (∀ path expected got, e = .typeMismatch path expected got → ∃ s ∈ t.descent,
      path = s.way ∧ t.toJson.decoded.pointer? path.text = some s.node.toJson.decoded ∧
      s.expected = expected ∧ s.node.declaredType = got ∧ got.satisfies expected = false ∧
      s.node.check = .ok ()) ∧
    (∀ path fault, e = .invalid path fault → ∃ before s after way doc,
      t.root.traversal = before ++ s :: after ∧ path = s.way ++ way ∧
      t.toJson.decoded.located? path.text = some doc ∧ s.node.HasPart way doc ∧
      s.node.AtFault way fault ∧ s.node.faults.head? = some (way, fault) ∧
      ∀ b ∈ before, b.PassedBefore s) := by
  obtain ⟨before, s, after, htraversal, hbefore, hreports⟩ :=
    Seat.exists_culprit (t.check_root.trans h)
  have hs : s ∈ t.root.traversal := by rw [htraversal]; simp
  cases hreports with
  | misfit hnode hfits =>
    -- at the root every type fits
    have hbelow : s ∈ t.descent := by
      rw [traversal_root] at hs
      refine (List.mem_cons.mp hs).resolve_left ?_
      rintro rfl
      exact hfits (TypeDesc.satisfies_any _)
    have hpointer := pointer?_of_mem_descent hbelow
    refine ⟨.inr (Option.isSome_iff_exists.mpr ⟨_, hpointer⟩), ?_, nofun⟩
    rintro path expected got ⟨⟩
    exact ⟨s, hbelow, rfl, hpointer, rfl, rfl, Bool.eq_false_iff.mpr hfits, hnode⟩
  | @fault way fault hfault =>
    have hatFault : s.node.AtFault way fault := s.node.faults_of _ (List.mem_of_mem_head? hfault)
    obtain ⟨doc, hpart⟩ := hatFault.exists_part
    have hlocated := located?_part hs hpart
    refine ⟨?_, nofun, ?_⟩
    · show NodePath.text (s.way ++ way) = "/" ∨ _
      rw [Json.located?] at hlocated
      split at hlocated
      · exact .inl ‹_›
      · exact .inr (Option.isSome_iff_exists.mpr ⟨doc, hlocated⟩)
    · rintro path fault ⟨⟩
      exact ⟨before, s, after, way, doc, htraversal, rfl, hlocated, hpart, hatFault, hfault,
        hbefore⟩

/-- A package whose second field group has words where it needs columns; the place is five steps
    below the root. -/
def wordColumns : Node :=
  .package (defaultName .kebabCase) defaultSentence
    (.tableResource (defaultName .kebabCase) defaultSentence
      (.tableSchema (.many [defaultFieldGroup, .fieldGroup defaultMetaGroup .word]) (.fixed 3)
        defaultMissingName 5 0.5))
    (.fixed 1)

/-- A batch of choices, one of them an optional interval whose length has its ends the wrong way
    around, 4 and 2. -/
def shrinkingInterval : Node :=
  .batch (.choice [.word, .maybe none (.interval ⟨0, 5⟩ ⟨4, 2⟩)]) (.fixed 2) false

/-- The first tree is refused for a type: at `/resource/table_schema/fields/1/field_type` there is a
    node of texts that passes by itself.  The second is refused for a fault, at the upper end of the
    interval's length, and everything before that node passes. -/
theorem check_error_located_nested :
    wordColumns.check = .error (.typeMismatch
      [.slot "resource", .slot "table_schema", .slot "fields", .place 1, .slot "field_type"]
      .fieldType (.prim .str)) ∧
    (∃ s ∈ wordColumns.descent,
      wordColumns.toJson.decoded.pointer? "/resource/table_schema/fields/1/field_type"
        = some s.node.toJson.decoded ∧
      s.expected = .fieldType ∧ s.node.declaredType = .prim .str ∧ s.node.check = .ok ()) ∧
    shrinkingInterval.check = .error (.invalid
      [.slot "child", .slot "children", .place 1, .slot "child", .slot "length_max"]
      (.invertedInts 4 2)) ∧
    (∃ before s after way, shrinkingInterval.root.traversal = before ++ s :: after ∧
      s.node.AtFault way (.invertedInts 4 2) ∧ ∀ b ∈ before, b.PassedBefore s) := by
  have hwords : wordColumns.check = .error (.typeMismatch
      [.slot "resource", .slot "table_schema", .slot "fields", .place 1, .slot "field_type"]
      .fieldType (.prim .str)) := rfl
  have hlength : shrinkingInterval.check = .error (.invalid
      [.slot "child", .slot "children", .place 1, .slot "child", .slot "length_max"]
      (.invertedInts 4 2)) := rfl
  obtain ⟨s, hs, -, hpointer, hexpected, hgot, -, hcheck⟩ :=
    (check_error_located hwords).2.1 _ _ _ rfl
  obtain ⟨before, r, after, way, -, htraversal, -, -, -, hfault, -, hbefore⟩ :=
    (check_error_located hlength).2.2 _ _ rfl
  exact ⟨hwords, ⟨s, hs, hpointer, hexpected, hgot, hcheck⟩, hlength,
    ⟨before, r, after, way, htraversal, hfault, hbefore⟩⟩

end Node

end SyntheticTables
