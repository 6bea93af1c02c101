/-
  What is wrong with a node itself.

  `Node.faults` lists it in the order in which the check looks for it, whatever stands below the
  node; `Node.AtFault` says what each entry means for the arguments of the node.  Then the check is
  the same for all kinds of nodes (`Node.checkAt_eq`): it reports the first fault of the node, and
  if there is none, it goes on to the seats below, one after the other.
-/
import SyntheticTables.Proofs.Config.Seat
import SyntheticTables.Proofs.TypeDesc.Preorder

namespace SyntheticTables

open Check (text optionalText metaSeq fieldSeq levelsOverflow)

/-! ## Faults -/

/-- Faults, each with the way to it. -/
abbrev Faults := List (NodePath × Fault)

namespace Faults

/-- A fault of a parameter under a condition. -/
def when (c : Prop) [Decidable c] (name : String) (fault : Fault) : Faults :=
  if c then [([.slot name], fault)] else []

/-- A parameter that is to be a probability is wrong if it is not between 0 and 1, which `NaN` is
    not either. -/
def probability (name : String) (x : Float) : Faults :=
  when (¬(0.0 ≤ x ∧ x ≤ 1.0)) name (.notAProbability x)

/-- Several such parameters, in the order in which the check looks at them. -/
def probabilities (ps : List (String × Float)) : Faults := ps.flatMap fun p => probability p.1 p.2

/-- A range of integers whose ends are the wrong way round. -/
def intRange (name : String) (r : IntRange) : Faults :=
  when (r.max < r.min) name (.invertedInts r.min r.max)

/-- A range of lengths is a range of integers that are not negative. -/
def lengthRange (name : String) (r : IntRange) : Faults :=
  intRange name r ++ when (r.min < 0) name .negativeLength

/-- A number of levels, of which there has to be one at least. -/
def levelCount (r : IntRange) : Faults :=
  intRange "n_levels_range" r ++ when (r.min < 1) "n_levels_range" .noLevels

/-- A range of floats: both ends are to be finite, and then in order. -/
def floatRange (name : String) (r : FloatRange) : Faults :=
  when (!r.min.isFinite || !r.max.isFinite) name .notFinite
    ++ when (r.max < r.min) name (.invertedFloats r.min r.max)

/-- A range of sizes whose ends are the wrong way round. -/
def size (name : String) (s : SizeSpec) : Faults :=
  when (s.max < s.min) name (.invertedSizes s.min s.max)

/-- A number of words, of which there has to be one at least. -/
def wordCount (s : SizeSpec) : Faults := size "n_words" s ++ when (s.min = 0) "n_words" .noWords

/-- A combinator needs a child. -/
def noChildren (combinator : String) : List Node → Faults
  | [] => [([], .noChildren combinator)]
  | _ :: _ => []

/-- A schema needs columns: an empty list of groups is wrong, a single node is not. -/
def noFieldGroups : FieldGroups → Faults
  | .many [] => [([.slot "fields"], .noFieldGroups)]
  | _ => []

end Faults

open Faults in
/-- What is wrong with a node itself, in the order in which the check looks for it. -/
def Node.faults : Node → Faults
  | .word | .missingValueName _ | .unique _ | .fieldGroup .. | .likertFieldGroup ..
  | .tableResource .. => []
  | .words _ count => wordCount count
  | .integer min max => intRange "max" ⟨min, max⟩
  | .number min max => floatRange "max" ⟨min, max⟩
  | .boolean prob => probability "prob" prob
  | .interval start length =>
    intRange "start_max" start ++ intRange "length_max" length
      ++ when (length.min < 0) "length_min" .negativeIntervalLength
  | .maybe prob _ => prob.elim [] (probability "prob")
  | .choice nodes => noChildren "choice" nodes
  | .seq nodes _ => noChildren "seq" nodes
  | .batch _ count _ => size "size" count
  | .integerFieldType p _ =>
    probabilities [("required_prob", p.requiredProb), ("unique_prob", p.uniqueProb),
      ("undefined_prob", p.undefinedProb)]
      ++ intRange "minimum_range" p.minimumRange ++ intRange "maximum_range" p.maximumRange
  | .numberFieldType p _ =>
    probabilities [("required_prob", p.requiredProb), ("unique_prob", p.uniqueProb),
      ("undefined_prob", p.undefinedProb)]
      ++ floatRange "minimum_range" p.minimumRange ++ floatRange "maximum_range" p.maximumRange
  | .stringFieldType p _ =>
    probabilities [("required_prob", p.requiredProb), ("unique_prob", p.uniqueProb),
      ("undefined_prob", p.undefinedProb)]
      ++ lengthRange "min_length_range" p.minLengthRange
      ++ lengthRange "max_length_range" p.maxLengthRange
  | .enumIntegerFieldType p _ _ =>
    probabilities [("no_label_prob", p.noLabelProb), ("required_prob", p.requiredProb),
      ("unique_prob", p.uniqueProb), ("ordered_prob", p.orderedProb),
      ("undefined_prob", p.undefinedProb)]
      ++ intRange "level_start_range" p.levelStartRange ++ levelCount p.levelCountRange
      ++ when (levelsOverflow p) "level_start_range" .levelsOverflow
  | .enumStringFieldType p _ _ =>
    probabilities [("required_prob", p.requiredProb), ("unique_prob", p.uniqueProb),
      ("ordered_prob", p.orderedProb), ("undefined_prob", p.undefinedProb)]
      ++ levelCount p.levelCountRange
  | .metaGroup _ count _ _ _ undefinedProb =>
    probability "undefined_prob" undefinedProb ++ lengthRange "n_range" count
  | .tableSchema fields rows _ _ undefinedProb =>
    probability "undefined_prob" undefinedProb ++ size "n_rows" rows ++ noFieldGroups fields
  | .package _ _ _ resources =>
    size "n_resources" resources ++ when (resources.min = 0) "n_resources" .noResources

/-! ## What faults mean -/

/-- Pairs of parameters that are the ends of one range, the lower one first. -/
def rangeEnds : List (String × String) :=
  [("min", "max"), ("start_min", "start_max"), ("length_min", "length_max")]

/-- The parameter holds the range, or it is the upper end of one whose lower end is a parameter of
    its own; faults of such a range are reported at the upper end. -/
inductive Node.HasRange (n : Node) (name : String) (range low high : Argument) : Prop where
  | whole (h : (name, range) ∈ n.arguments)
  | ends (lower : String) (h : (lower, name) ∈ rangeEnds) (hlow : (lower, low) ∈ n.arguments)
      (hhigh : (name, high) ∈ n.arguments)

/-- The same for ranges of integers. -/
def Node.HasIntRange (n : Node) (name : String) (r : IntRange) : Prop :=
  n.HasRange name (.intRange r) (.int r.min) (.int r.max)

/-- The same for ranges of floats. -/
def Node.HasFloatRange (n : Node) (name : String) (r : FloatRange) : Prop :=
  n.HasRange name (.floatRange r) (.float r.min) (.float r.max)

/-- What is wrong with a node or with one of its parameters, in terms of its arguments.  There is
    one case for each fault, with the way to the parameter at which it is reported. -/
inductive Node.AtFault (n : Node) : NodePath → Fault → Prop where
  | noChildren (h : n.children = []) : n.AtFault [] (.noChildren n.tag)
  | noFieldGroups (h : ("fields", .fieldGroups (.many [])) ∈ n.arguments) :
    n.AtFault [.slot "fields"] .noFieldGroups
  | noResources {s : SizeSpec} (h : ("n_resources", .size s) ∈ n.arguments) (hs : s.min = 0) :
    n.AtFault [.slot "n_resources"] .noResources
  | noWords {s : SizeSpec} (h : ("n_words", .size s) ∈ n.arguments) (hs : s.min = 0) :
    n.AtFault [.slot "n_words"] .noWords
  | noLevels {r : IntRange} (h : ("n_levels_range", .intRange r) ∈ n.arguments) (hr : r.min < 1) :
    n.AtFault [.slot "n_levels_range"] .noLevels
  | levelsOverflow {start count : IntRange}
    (hstart : ("level_start_range", .intRange start) ∈ n.arguments)
    (hcount : ("n_levels_range", .intRange count) ∈ n.arguments)
    (h : Int64.maxValue.toInt < start.max.toInt + count.max.toInt) :
    n.AtFault [.slot "level_start_range"] .levelsOverflow
  | negativeLength {name : String} {r : IntRange} (h : (name, .intRange r) ∈ n.arguments)
    (hr : r.min < 0) : n.AtFault [.slot name] .negativeLength
  | negativeIntervalLength {i : Int64} (h : ("length_min", .int i) ∈ n.arguments) (hi : i < 0) :
    n.AtFault [.slot "length_min"] .negativeIntervalLength
  | notFinite {name : String} {r : FloatRange} (h : n.HasFloatRange name r)
    (hr : r.min.isFinite = false ∨ r.max.isFinite = false) : n.AtFault [.slot name] .notFinite
  | notAProbability {name : String} {x : Float}
    (h : (name, .float x) ∈ n.arguments ∨ (name, .maybeFloat (some x)) ∈ n.arguments)
    (hx : ¬IsProbability x) : n.AtFault [.slot name] (.notAProbability x)
  | invertedInts {name : String} {r : IntRange} (h : n.HasIntRange name r) (hr : r.max < r.min) :
    n.AtFault [.slot name] (.invertedInts r.min r.max)
  | invertedFloats {name : String} {r : FloatRange} (h : n.HasFloatRange name r)
    (hr : r.max < r.min) : n.AtFault [.slot name] (.invertedFloats r.min r.max)
  | invertedSizes {name : String} {s : SizeSpec} (h : (name, .size s) ∈ n.arguments)
    (hs : s.max < s.min) : n.AtFault [.slot name] (.invertedSizes s.min s.max)

/-- All of these are faults of the node. -/
def Faults.Of (n : Node) (faults : Faults) : Prop := ∀ f ∈ faults, n.AtFault f.1 f.2

namespace Faults

variable {n : Node} {name : String}

/-- No faults are faults of any node. -/
theorem of_nil : Of n [] := List.forall_mem_nil _

/-- Lists of faults are those of a node part by part. -/
theorem of_append {faults more : Faults} : Of n (faults ++ more) ↔ Of n faults ∧ Of n more :=
  List.forall_mem_append

/-- A fault under a condition is one of the node if it is whenever the condition holds. -/
theorem of_when {c : Prop} [Decidable c] {fault : Fault} (h : c → n.AtFault [.slot name] fault) :
    Of n (when c name fault) := by
  unfold when
  split
  · exact List.forall_mem_singleton.mpr (h ‹c›)
  · exact of_nil

/-- A parameter that holds a float, or may hold one, is at fault if that is no probability. -/
theorem of_probability {x : Float}
    (h : (name, .float x) ∈ n.arguments ∨ (name, .maybeFloat (some x)) ∈ n.arguments) :
    Of n (probability name x) :=
  of_when fun hx => .notAProbability h hx

/-- The same for several parameters at once. -/
theorem of_probabilities {ps : List (String × Float)}
    (h : ∀ p ∈ ps, (p.1, .float p.2) ∈ n.arguments) : Of n (probabilities ps) := by
  intro f hf
  obtain ⟨p, hp, hf⟩ := List.mem_flatMap.mp hf
  exact of_probability (.inl (h p hp)) f hf

/-- A range the wrong way round is a fault of the node that has it. -/
theorem of_intRange {r : IntRange} (h : n.HasIntRange name r) : Of n (intRange name r) :=
  of_when fun hr => .invertedInts h hr

/-- A range of lengths has two faults of its own, looked for in this order. -/
theorem of_lengthRange {r : IntRange} (h : (name, .intRange r) ∈ n.arguments) :
    Of n (lengthRange name r) :=
  of_append.mpr ⟨of_intRange (.whole h), of_when fun hr => .negativeLength h hr⟩

/-- So has a number of levels. -/
theorem of_levelCount {r : IntRange} (h : ("n_levels_range", .intRange r) ∈ n.arguments) :
    Of n (levelCount r) :=
  of_append.mpr ⟨of_intRange (.whole h), of_when fun hr => .noLevels h hr⟩

/-- A range of floats is at fault if one of its ends is not finite, or if they are the wrong way
    round. -/
theorem of_floatRange {r : FloatRange} (h : n.HasFloatRange name r) : Of n (floatRange name r) :=
  of_append.mpr ⟨of_when fun hr => .notFinite h (by simpa using hr),
    of_when fun hr => .invertedFloats h hr⟩

/-- Sizes the wrong way round are a fault of the node that has them. -/
theorem of_size {s : SizeSpec} (h : (name, .size s) ∈ n.arguments) : Of n (size name s) :=
  of_when fun hs => .invertedSizes h hs

/-- A number of words may be the wrong way round, or allow for none. -/
theorem of_wordCount {s : SizeSpec} (h : ("n_words", .size s) ∈ n.arguments) :
    Of n (wordCount s) :=
  of_append.mpr ⟨of_size h, of_when fun hs => .noWords h hs⟩

end Faults

open Faults in
/-- What is found wrong with a node is wrong with it.  The cases are the kinds of nodes; for each,
    its parameters are found among its arguments. -/
theorem Node.faults_of (n : Node) : n.faults.Of n := by
  cases n with
  | words joiner count => exact of_wordCount (by simp [arguments])
  | integer min max =>
    exact of_intRange (.ends "min" (by decide) (by simp [arguments]) (by simp [arguments]))
  | number min max =>
    exact of_floatRange (.ends "min" (by decide) (by simp [arguments]) (by simp [arguments]))
  | boolean prob => exact of_probability (by simp [arguments])
  -- written as four numbers, so the two ranges are found by their ends
  | interval start length =>
    have hstart : HasIntRange (.interval start length) "start_max" start :=
      .ends "start_min" (by decide) (by simp [arguments]) (by simp [arguments])
    have hlength : HasIntRange (.interval start length) "length_max" length :=
      .ends "length_min" (by decide) (by simp [arguments]) (by simp [arguments])
    exact of_append.mpr ⟨of_append.mpr ⟨of_intRange hstart, of_intRange hlength⟩,
      of_when fun hmin => .negativeIntervalLength (by simp [arguments]) hmin⟩
  | maybe prob child =>
    cases prob with
    | none => exact of_nil
    | some x => exact of_probability (by simp [arguments])
  | choice nodes =>
    cases nodes with
    | nil => exact List.forall_mem_singleton.mpr (.noChildren rfl)
    | cons m rest => exact of_nil
  | seq nodes distinct =>
    cases nodes with
    | nil => exact List.forall_mem_singleton.mpr (.noChildren rfl)
    | cons m rest => exact of_nil
  | batch child count distinct => exact of_size (by simp [arguments])
  | integerFieldType p missingName =>
    simp only [faults, of_append]
    exact ⟨⟨of_probabilities (by simp [arguments]), of_intRange (.whole (by simp [arguments]))⟩,
      of_intRange (.whole (by simp [arguments]))⟩
  | numberFieldType p missingName =>
    simp only [faults, of_append]
    exact ⟨⟨of_probabilities (by simp [arguments]), of_floatRange (.whole (by simp [arguments]))⟩,
      of_floatRange (.whole (by simp [arguments]))⟩
  | stringFieldType p missingName =>
    simp only [faults, of_append]
    exact ⟨⟨of_probabilities (by simp [arguments]), of_lengthRange (by simp [arguments])⟩,
      of_lengthRange (by simp [arguments])⟩
  | enumIntegerFieldType p labelName missingName =>
    -- this fault is about two ranges and stands at the first of them
    have hoverflow : levelsOverflow p = true →
        AtFault (.enumIntegerFieldType p labelName missingName) [.slot "level_start_range"]
          .levelsOverflow := by
      intro h
      have hmax : Int64.maxValue.toInt
          < p.levelStartRange.max.toInt + p.levelCountRange.max.toInt := of_decide_eq_true h
      exact .levelsOverflow (by simp [arguments]) (by simp [arguments]) hmax
    simp only [faults, of_append]
    exact ⟨⟨⟨of_probabilities (by simp [arguments]), of_intRange (.whole (by simp [arguments]))⟩,
      of_levelCount (by simp [arguments])⟩, of_when hoverflow⟩
  | enumStringFieldType p labelName missingName =>
    exact of_append.mpr
      ⟨of_probabilities (by simp [arguments]), of_levelCount (by simp [arguments])⟩
  | metaGroup groupName count fieldName title description prob =>
    exact of_append.mpr ⟨of_probability (by simp [arguments]), of_lengthRange (by simp [arguments])⟩
  | tableSchema fields rows missingName missingMax prob =>
    have hfields : Of (.tableSchema fields rows missingName missingMax prob)
        (noFieldGroups fields) := by
      cases fields with
      | one node => exact of_nil
      | many nodes =>
        cases nodes with
        | nil => exact List.forall_mem_singleton.mpr (.noFieldGroups (by simp [arguments]))
        | cons m rest => exact of_nil
    simp only [faults, of_append]
    exact ⟨⟨of_probability (by simp [arguments]), of_size (by simp [arguments])⟩, hfields⟩
  | package name description resource resources =>
    exact of_append.mpr ⟨of_size (by simp [arguments]),
      of_when fun hmin => .noResources (by simp [arguments]) hmin⟩
  | _ => exact of_nil

/-! ## Reports -/

/-- The first fault is reported, with the way from the root. -/
def Faults.report (path : NodePath) (faults : Faults) (rest : Except CheckError Unit) :
    Except CheckError Unit :=
  match faults with
  | [] => rest
  | (way, fault) :: _ => .error (.invalid (path ++ way) fault)

/-- Checks the node in a seat, and then whether it fits there.  Faults inside the node come
    first. -/
def Seat.check (path : NodePath) (s : Seat) : Except CheckError Unit := do
  s.node.checkAt (path ++ s.way)
  Check.expect (path ++ s.way) s.expected s.node

namespace Faults

variable {path : NodePath} {rest : Except CheckError Unit}

/-- Without faults the check goes on. -/
theorem report_nil : report path [] rest = rest := rfl

/-- A report is accepted when there was nothing to report and the rest is accepted. -/
theorem report_eq_ok_iff {faults : Faults} :
    report path faults rest = .ok () ↔ faults = [] ∧ rest = .ok () := by
  cases faults with
  | nil => exact (and_iff_right rfl).symm
  | cons f more => exact iff_of_false nofun fun h => nomatch h.1

/-- The first fault of two lists is that of the first list if it has one. -/
theorem report_append (faults more : Faults) :
    report path (faults ++ more) rest = report path faults (report path more rest) := by
  cases faults <;> rfl

/-- A fault under a condition is a refusal under that condition. -/
theorem report_when {c : Prop} [Decidable c] {name : String} {fault : Fault} :
    report path (when c name fault) rest
      = if c then Check.refuse path name fault else rest := by
  unfold when
  split <;> rfl

/-- Whatever comes later comes after the report. -/
theorem report_bind (faults : Faults) (next : Unit → Except CheckError Unit) :
    report path faults rest >>= next = report path faults (rest >>= next) := by
  cases faults <;> rfl

/-- A guard that may report a fault before the check goes on. -/
theorem refuse_seq {c : Prop} [Decidable c] {name : String} {fault : Fault}
    (next : Unit → Except CheckError Unit) :
    (if c then Check.refuse path name fault >>= next else rest)
      = report path (when c name fault) rest :=
  report_when.symm

/-- The guard against combinators without children, as a report. -/
theorem refuse_noChildren {combinator : String} {nodes : List Node}
    (next : Unit → Except CheckError Unit) :
    (if nodes.isEmpty = true then
        (throw (.invalid path (.noChildren combinator)) : Except CheckError Unit) >>= next
      else rest)
      = report path (noChildren combinator nodes) rest := by
  cases nodes with
  | nil =>
    rw [noChildren, report, List.append_nil]
    rfl
  | cons n others => rfl

end Faults

namespace Check

open Faults (report)

variable {path : NodePath} {name : String}

/-- The check of a probability reports its fault, if it has one.  The other checks of single
    parameters do the same. -/
theorem probability_eq (x : Float) :
    probability path name x = report path (Faults.probability name x) (pure ()) := by
  unfold probability Faults.probability Faults.when
  by_cases h : 0.0 ≤ x ∧ x ≤ 1.0
  · rw [if_pos h, if_neg (not_not_intro h)]
    rfl
  · rw [if_neg h, if_pos h]
    rfl

/-- Several probabilities are checked in order, so the first fault among them is reported. -/
theorem probabilities_eq (ps : List (String × Float)) :
    probabilities path ps = report path (Faults.probabilities ps) (pure ()) := by
  induction ps with
  | nil => rfl
  | cons p rest ih =>
    rw [probabilities, ih, probability_eq, Faults.report_bind, pure_bind, ← Faults.report_append]
    rfl

/-- The check of a range of integers reports its fault. -/
theorem intRange_eq (r : IntRange) :
    intRange path name r = report path (Faults.intRange name r) (pure ()) :=
  Faults.report_when.symm

/-- The check of sizes reports theirs. -/
theorem size_eq (s : SizeSpec) : size path name s = report path (Faults.size name s) (pure ()) :=
  Faults.report_when.symm

/-- The check of lengths looks at their order first. -/
theorem lengthRange_eq (r : IntRange) :
    lengthRange path name r = report path (Faults.lengthRange name r) (pure ()) := by
  rw [lengthRange, intRange_eq, Faults.report_bind, Faults.lengthRange, Faults.report_append,
    Faults.report_when]
  rfl

/-- So does the check of a number of levels. -/
theorem levelCount_eq (r : IntRange) :
    levelCount path r = report path (Faults.levelCount r) (pure ()) := by
  rw [levelCount, intRange_eq, Faults.report_bind, Faults.levelCount, Faults.report_append,
    Faults.report_when]
  rfl

/-- So does the check of a number of words. -/
theorem wordCount_eq (s : SizeSpec) :
    wordCount path s = report path (Faults.wordCount s) (pure ()) := by
  rw [wordCount, size_eq, Faults.report_bind, Faults.wordCount, Faults.report_append,
    Faults.report_when]
  rfl

/-- The check of floats asks first whether they are finite. -/
theorem floatRange_eq (r : FloatRange) :
    floatRange path name r = report path (Faults.floatRange name r) (pure ()) := by
  rw [floatRange, Faults.floatRange, Faults.report_append, Faults.report_when, Faults.report_when]
  rfl

/-- Where any type will do, every node fits. -/
theorem expect_any (n : Node) : expect path .any n = pure () := by
  rw [expect, TypeDesc.satisfies_any]
  rfl

end Check

/-! ## One law for all kinds -/

namespace Node

variable {path : NodePath}

/-- The nodes in a list are checked one after the other, each in its seat.  By induction on the
    list; the index is that of the first node. -/
theorem checkEach_eq (path : NodePath) (index : Nat) (expected : TypeDesc) (ns : List Node) :
    checkEach path index expected ns
      = ((numbered index ns).map fun p => ⟨p.1, expected, p.2⟩).forM (Seat.check path) := by
  induction ns generalizing index with
  | nil => rfl
  | cons n rest ih =>
    simp only [checkEach, numbered, List.map_cons, List.forM_eq_forM, List.forM_cons, Seat.check,
      ih, bind_assoc]

/-- The nodes in a list are checked in their seats. -/
theorem checkEach_into (name : String) (expected : TypeDesc) (ns : List Node) :
    checkEach (Check.into path name) 0 expected ns
      = ((numbered 0 ns).map fun p => ⟨.slot name :: p.1, expected, p.2⟩).forM
          (Seat.check path) := by
  rw [checkEach_eq, Check.into]
  simp [Seat.check]

/-- The field groups of a schema are checked in their seats if there are any; an empty list is the
    one fault that the groups may have by themselves. -/
theorem checkGroups_eq (g : FieldGroups) :
    FieldGroups.checkAt (Check.into path "fields") g
      = Faults.report path (Faults.noFieldGroups g)
          (((Argument.fieldGroups g).places.map
            fun p => ⟨.slot "fields" :: p.1, fieldSeq, p.2⟩).forM (Seat.check path)) := by
  cases g with
  | one node =>
    simp [FieldGroups.checkAt, Faults.noFieldGroups, Faults.report_nil, Argument.places, Seat.check,
      Check.into]
  | many nodes =>
    cases nodes with
    | nil => rfl
    | cons n rest => exact checkEach_into "fields" fieldSeq (n :: rest)

/-- The check is the same for all kinds of nodes: it reports the first fault of the node, and if
    there is none, it goes through the seats below. -/
theorem checkAt_eq (n : Node) (path : NodePath) :
    n.checkAt path = Faults.report path n.faults (n.seats.forM (Seat.check path)) := by
  cases n with
  | word => rfl
  | missingValueName style => cases style <;> rfl
  | words joiner count => exact Check.wordCount_eq count
  | integer min max => exact Check.intRange_eq _
  | number min max => exact Check.floatRange_eq _
  | boolean prob => exact Check.probability_eq prob
  | interval start length =>
    simp only [checkAt, Check.intRange_eq, Faults.report_bind, pure_bind, faults,
      Faults.report_append, Faults.report_when]
    rfl
  | maybe prob child =>
    cases prob <;>
      simp [checkAt, Check.probability_eq, Faults.report_bind, faults, Faults.report_nil, seats,
        arguments, Argument.places, Kind.expects, kind, Seat.check, Check.into, Check.expect_any]
  -- the other kinds report their faults one after the other and go on to their seats
  | _ =>
    simp only [checkAt, Check.probability_eq, Check.probabilities_eq, Check.intRange_eq,
      Check.floatRange_eq, Check.lengthRange_eq, Check.levelCount_eq, Check.size_eq,
      checkEach_into, checkGroups_eq, Faults.refuse_noChildren, Faults.refuse_seq,
      Faults.report_bind, pure_bind, faults, Faults.report_append, Faults.report_nil]
    simp [Seat.check, Check.into, seats, arguments, missingArguments, Argument.places, Kind.expects,
      kind, Check.expect_any]

end Node

end SyntheticTables
