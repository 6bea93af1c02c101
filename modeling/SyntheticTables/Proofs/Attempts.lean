/-
  A larger number of attempts changes no run that succeeds.

  Two runs differ in nothing but how often a search for a new value may try.  As long as the run
  with fewer attempts succeeds, no search of it is cut off, so every search of the other run stops at
  the same try and leaves the same state.  `KeptBy m m'` says this of two draws: wherever `m` gives a
  value, `m'` gives the same value and goes to the same state.  It passes through every way of
  putting draws together, so the tree is one induction over its nodes (`Node.draw_keptBy`) and the
  run one over its calls.  Nothing is said about where `m` fails; there the two runs part.
-/
import SyntheticTables.Proofs.Run

namespace SyntheticTables

namespace Draw

variable {α β : Type}

/-- `m.KeptBy m'`: every success of `m` is one of `m'`, with the same value and in the same state.
    Nothing is asked of `m'` where `m` fails, since that is where more attempts may succeed. -/
def KeptBy (m m' : Draw α) : Prop := ∀ s a s', m s = (.ok a, s') → m' s = (.ok a, s')

namespace KeptBy

/-- Every draw is kept by itself.  This is the base case for the parts of a tree that search
    nothing. -/
theorem refl (m : Draw α) : m.KeptBy m := fun _ _ _ h => h

/-- The sequence of two draws is kept if both are: the second begins in the state in which the first
    left off, and that is the same state in both. -/
theorem bind {m m' : Draw α} {f f' : α → Draw β} (hm : m.KeptBy m')
    (hf : ∀ a, (f a).KeptBy (f' a)) : (m >>= f).KeptBy (m' >>= f') := by
  intro s b s'' h
  obtain ⟨a, s', hfirst, hrest⟩ := bind_eq_ok.mp h
  exact bind_eq_ok.mpr ⟨a, s', hm s a s' hfirst, hf a s' b s'' hrest⟩

/-- The first draw is the same in both, so only what comes after it is compared. -/
theorem bind_right (m : Draw α) {f f' : α → Draw β} (hf : ∀ a, (f a).KeptBy (f' a)) :
    (m >>= f).KeptBy (m >>= f') :=
  bind (refl m) hf

/-- What is done with the value afterwards is the same in both. -/
theorem bind_left {m m' : Draw α} (hm : m.KeptBy m') (f : α → Draw β) :
    (m >>= f).KeptBy (m' >>= f) :=
  bind hm fun a => refl (f a)

/-- A draw whose value is only put into another form is kept, as the form changes no state. -/
theorem map {m m' : Draw α} (hm : m.KeptBy m') (f : α → β) : (f <$> m).KeptBy (f <$> m') := by
  rw [map_eq_pure_bind, map_eq_pure_bind]
  exact hm.bind_left _

/-- A draw that never succeeds is kept by any other. -/
theorem of_throw (e : GenError) (m' : Draw α) : (throw e : Draw α).KeptBy m' := by
  intro s a s' h
  cases h

/-- Reading a drawn value as one of a certain form keeps it kept: the form fails or succeeds with
    the value alone. -/
theorem as {m m' : Draw Value} (hm : m.KeptBy m') (form : Value → Except GenError α) :
    (m.as form).KeptBy (m'.as form) :=
  hm.bind_left _

/-- The toss itself is the same in both, so an optional draw is kept if the draw is. -/
theorem maybe {m m' : Draw α} (hm : m.KeptBy m') (p : Float) :
    (Draw.maybe p m).KeptBy (Draw.maybe p m') := by
  apply bind_right
  intro hit
  -- a toss that misses draws nothing, in either run
  cases hit with
  | true => exact hm.bind_left _
  | false => exact refl _

/-- A search that finds something finds it with more attempts, too, at the same try: both searches
    draw the same values and refuse the same ones until then.  The induction is on the tries of the
    shorter search, and only the error at its end may differ. -/
theorem retry {m m' : Draw α} (hm : m.KeptBy m') (accept : α → Draw (Option β))
    (exhausted exhausted' : GenError) : ∀ {n n' : Nat}, n ≤ n' →
      (Draw.retry exhausted accept m n).KeptBy (Draw.retry exhausted' accept m' n')
  -- with no try left the shorter search fails, and a failure is kept by anything
  | 0, _, _ => of_throw exhausted _
  | n + 1, 0, hle => absurd hle (Nat.not_succ_le_zero n)
  | n + 1, n' + 1, hle => by
    apply hm.bind
    intro a
    apply bind_right
    intro accepted
    -- an accepted value ends both searches at this try; a refused one leaves `n` tries and `n'`
    cases accepted with
    | some b => exact refl _
    | none => exact retry hm accept exhausted exhausted' (Nat.le_of_succ_le_succ hle)

/-- A repetition is kept if what it repeats is, from any values already drawn; by induction on the
    repetitions that are left. -/
theorem timesOnto {m m' : Draw α} (hm : m.KeptBy m') : ∀ (n : Nat) (drawn : List α),
    (Draw.timesOnto m drawn n).KeptBy (Draw.timesOnto m' drawn n)
  | 0, _ => refl _
  | n + 1, drawn => hm.bind fun a => timesOnto hm n (a :: drawn)

/-- The same from no values, which is how every repetition begins. -/
theorem times {m m' : Draw α} (hm : m.KeptBy m') (n : Nat) :
    (Draw.times n m).KeptBy (Draw.times n m') :=
  hm.timesOnto n []

end KeptBy

end Draw

/-! ## Searches -/

namespace Context

open Draw

/-- The same context, but for the number of attempts. -/
def withAttempts (c : Context) (attempts : UInt32) : Context := { c with attempts }

variable {c : Context} {attempts : UInt32}

section Searches

variable (hle : c.attempts ≤ attempts)

include hle

/-- The hypothesis on the numbers of attempts as one on natural numbers, in which `retry` counts. -/
theorem attempts_le : c.attempts.toNat ≤ (c.withAttempts attempts).attempts.toNat :=
  UInt32.le_iff_toNat_le.mp hle

/-- The search behind `unique`, group names and composed names: found in the run with fewer
    attempts, the value is found at the same try with more, and recorded alike. -/
theorem keptBy_uniqueInRun {α : Type} {m m' : Draw α} (hm : m.KeptBy m') (key : α → String) :
    (c.uniqueInRun key m).KeptBy ((c.withAttempts attempts).uniqueInRun key m') :=
  (hm.retry _ _ _ (attempts_le hle)).bind_left _

/-- The search for a value that is new at a place; its memory is part of the state, so it is the
    same in both runs. -/
theorem keptBy_uniqueAt {m m' : Draw Value} (hm : m.KeptBy m') (place : Place) :
    (c.uniqueAt place m).KeptBy ((c.withAttempts attempts).uniqueAt place m') :=
  hm.retry _ _ _ (attempts_le hle)

/-- An item of a list or batch, searched for or simply drawn as the list's flag says. -/
theorem keptBy_item {m m' : Draw Value} (hm : m.KeptBy m') (place : Place) (distinct : Bool) :
    (if distinct then c.uniqueAt place m else m).KeptBy
      (if distinct then (c.withAttempts attempts).uniqueAt place m' else m') := by
  cases distinct with
  | true => exact keptBy_uniqueAt hle hm place
  | false => exact hm

section Texts

variable {m m' : Draw String} (hm : m.KeptBy m')

include hm

/-- The search for a text that is not among those seen. -/
theorem keptBy_newText (seen : Std.TreeSet String) :
    (c.newText seen m).KeptBy ((c.withAttempts attempts).newText seen m') :=
  hm.retry _ _ _ (attempts_le hle)

/-- A list of distinct texts, one search after the other; each adds its text to those that the next
    must avoid. -/
theorem keptBy_newTextsOnto : ∀ (n : Nat) (seen : Std.TreeSet String) (drawn : List String),
    (c.newTextsOnto m seen drawn n).KeptBy ((c.withAttempts attempts).newTextsOnto m' seen drawn n)
  | 0, _, _ => .refl _
  | n + 1, seen, drawn =>
    (keptBy_newText hle hm seen).bind fun p => keptBy_newTextsOnto n p.2 (p.1 :: drawn)

/-- A drawn number of distinct texts.  The number comes from the stream alone, so it is the same in
    both runs. -/
theorem keptBy_distinctTexts (count : SizeSpec) :
    (c.distinctTexts count m).KeptBy ((c.withAttempts attempts).distinctTexts count m') :=
  .bind_right _ fun n => keptBy_newTextsOnto hle hm n ∅ []

/-- Labels for a column's levels: drawn to differ from each other when the column is labeled, and
    not drawn at all otherwise. -/
theorem keptBy_labelsOnto (labeled : Bool) : ∀ (values : List LevelValue)
    (seen : Std.TreeSet String) (drawn : List Level),
      (c.labelsOnto m labeled seen drawn values).KeptBy
        ((c.withAttempts attempts).labelsOnto m' labeled seen drawn values)
  | [], _, _ => .refl _
  | value :: rest, seen, drawn => by
    unfold labelsOnto
    cases labeled with
    | true => exact (keptBy_newText hle hm seen).bind fun p => keptBy_labelsOnto true rest p.2 _
    | false => exact keptBy_labelsOnto false rest seen _

end Texts

/-! ## The parts of a package -/

section Types

variable {labelName labelName' missingName missingName' : Draw String}
  (hlabel : labelName.KeptBy labelName') (hmissing : missingName.KeptBy missingName')

include hmissing

/-- The missing values of a column or a table: distinct texts, or none when the toss says so. -/
theorem keptBy_missingValues (max : UInt64) (undefinedProb : Float) :
    (c.missingValues missingName max undefinedProb).KeptBy
      ((c.withAttempts attempts).missingValues missingName' max undefinedProb) :=
  (keptBy_distinctTexts hle hmissing _).maybe _

/-- The type of an integer column. -/
theorem keptBy_integerType (p : IntegerTypeParams) :
    (c.integerType p missingName).KeptBy ((c.withAttempts attempts).integerType p missingName') := by
  -- bounds and flags are drawn in the same way, so the missing values are all there is to compare
  iterate 4 (apply KeptBy.bind_right; intro _)
  exact (keptBy_missingValues hle hmissing _ _).bind_left _

/-- The type of a number column; as for integers, only its missing values are searched for. -/
theorem keptBy_numberType (p : NumberTypeParams) :
    (c.numberType p missingName).KeptBy ((c.withAttempts attempts).numberType p missingName') := by
  iterate 4 (apply KeptBy.bind_right; intro _)
  exact (keptBy_missingValues hle hmissing _ _).bind_left _

/-- The type of a string column; as for integers, only its missing values are searched for. -/
theorem keptBy_stringType (p : StringTypeParams) :
    (c.stringType p missingName).KeptBy ((c.withAttempts attempts).stringType p missingName') := by
  iterate 4 (apply KeptBy.bind_right; intro _)
  exact (keptBy_missingValues hle hmissing _ _).bind_left _

include hlabel

/-- The type of a column of integer levels, where labels and missing values are searched for; the
    levels themselves follow from the missing values and the range, so they are the same in both
    runs. -/
theorem keptBy_enumIntegerType (p : EnumIntegerTypeParams) :
    (c.enumIntegerType p labelName missingName).KeptBy
      ((c.withAttempts attempts).enumIntegerType p labelName' missingName') := by
  apply KeptBy.bind_right
  intro range
  apply (keptBy_missingValues hle hmissing _ _).bind
  intro tokens
  apply KeptBy.bind_right
  intro unlabeled
  exact (keptBy_labelsOnto hle hlabel _ _ _ _).bind_left _

/-- The type of a column of text levels: the levels are distinct texts, so they are searched for as
    missing values are. -/
theorem keptBy_enumStringType (p : EnumStringTypeParams) :
    (c.enumStringType p labelName missingName).KeptBy
      ((c.withAttempts attempts).enumStringType p labelName' missingName') := by
  apply (keptBy_distinctTexts hle hlabel _).bind
  intro levels
  iterate 3 (apply KeptBy.bind_right; intro _)
  exact (keptBy_missingValues hle hmissing _ _).bind_left _

end Types

/-- The name of a column in a group, searched for in the whole run. -/
theorem keptBy_composedName {name name' : Draw String} (hname : name.KeptBy name')
    (group : String) :
    (c.composedName group name).KeptBy ((c.withAttempts attempts).composedName group name') :=
  keptBy_uniqueInRun hle (hname.bind_left _) textKey

/-- A group of columns: its own name and each composed name are searches through the run's ledger,
    so both are kept by more attempts.  The number of columns and the coins for titles and
    descriptions look at no attempts. -/
theorem keptBy_metaGroup {group group' name name' title title' description description' :
      Draw String} (hgroup : group.KeptBy group') (hname : name.KeptBy name')
    (htitle : title.KeptBy title') (hdescription : description.KeptBy description')
    (count : IntRange) (undefinedProb : Float) :
    (c.metaGroup count undefinedProb group name title description).KeptBy
      ((c.withAttempts attempts).metaGroup count undefinedProb group' name' title' description') := by
  apply (keptBy_uniqueInRun hle hgroup textKey).bind
  intro prefixed
  apply KeptBy.bind_right
  intro n
  apply KeptBy.times
  apply (keptBy_composedName hle hname prefixed).bind
  intro composed
  apply (htitle.maybe _).bind
  intro someTitle
  exact (hdescription.maybe _).bind_left _

end Searches

/-! ## Columns, cells, tables and packages -/

/-- The types of a group's columns, drawn one after the other; by induction on the columns that
    still lack one. -/
theorem keptBy_fieldsOnto {fieldType fieldType' : Draw FieldType}
    (htype : fieldType.KeptBy fieldType') : ∀ (metas : List FieldMeta) (drawn : List Field),
      (c.fieldsOnto fieldType drawn metas).KeptBy
        ((c.withAttempts attempts).fieldsOnto fieldType' drawn metas)
  | [], _ => .refl _
  | info :: rest, drawn => htype.bind fun t => keptBy_fieldsOnto htype rest (⟨info, t⟩ :: drawn)

/-- A group of columns with their types, kept if the draws of its metas and its types are. -/
theorem keptBy_fieldGroup {groupMeta groupMeta' : Draw (List FieldMeta)}
    {fieldType fieldType' : Draw FieldType} (hmeta : groupMeta.KeptBy groupMeta')
    (htype : fieldType.KeptBy fieldType') :
    (c.fieldGroup groupMeta fieldType).KeptBy
      ((c.withAttempts attempts).fieldGroup groupMeta' fieldType') :=
  hmeta.bind fun metas => keptBy_fieldsOnto htype metas []

/-- A table's schema: its columns, then its missing values; the number of rows is drawn alike in
    both. -/
theorem keptBy_tableSchema {fields fields' : Draw (List Field)}
    {missingValues missingValues' : Draw (Option (List String))} (hfields : fields.KeptBy fields')
    (hmissing : missingValues.KeptBy missingValues') (rows : SizeSpec) :
    (c.tableSchema fields missingValues rows).KeptBy
      ((c.withAttempts attempts).tableSchema fields' missingValues' rows) :=
  hfields.bind fun _ => hmissing.bind_left _

/-- A table with its rows.  The rows read neither the number of attempts nor the ledger, so
    `rows_congr` makes them the same draw. -/
theorem keptBy_tableResource {name name' : Draw String}
    {description description' : Draw (Option String)} {schema schema' : Draw TableSchema}
    (hname : name.KeptBy name') (hdescription : description.KeptBy description')
    (hschema : schema.KeptBy schema') :
    (c.tableResource name description schema).KeptBy
      ((c.withAttempts attempts).tableResource name' description' schema') := by
  apply hschema.bind
  intro drawn
  rw [rows_congr (c := c) (d := c.withAttempts attempts) rfl]
  apply KeptBy.bind_right
  intro rows
  apply hname.bind
  intro named
  exact hdescription.bind_left _

/-- A package, with as many tables as were drawn. -/
theorem keptBy_package {name name' : Draw String} {description description' : Draw (Option String)}
    {resource resource' : Draw TableResource} (hname : name.KeptBy name')
    (hdescription : description.KeptBy description') (hresource : resource.KeptBy resource')
    (count : SizeSpec) :
    (c.package name description count resource).KeptBy
      ((c.withAttempts attempts).package name' description' count resource') := by
  apply hname.bind
  intro named
  apply hdescription.bind
  intro described
  apply KeptBy.bind_right
  intro n
  exact (hresource.times n).bind_left _

end Context

/-! ## Trees -/

section Trees

open Draw Context

variable {c : Context} {attempts : UInt32} {missing missing' : Draw String}

mutual

/-- What a tree draws with some attempts, it draws with more, whatever its missing values come from.
    By induction over the tree, one case for each kind of node. -/
theorem Node.draw_keptBy (hle : c.attempts ≤ attempts) (hmissing : missing.KeptBy missing') :
    ∀ (n : Node) (place : Place),
    (n.draw c missing place).KeptBy (n.draw (c.withAttempts attempts) missing' place)
  -- these draw from the stream and the vocabulary alone
  | .word, _ | .words .., _ | .integer .., _ | .number .., _ | .boolean _, _ | .interval .., _
  | .missingValueName (some _), _ => by
    rw [Node.draw, Node.draw]
    exact .refl _
  | .missingValueName none, _ => by
    rw [Node.draw, Node.draw]
    exact hmissing.map _
  | .maybe prob child, place => by
    rw [Node.draw, Node.draw]
    exact ((Node.draw_keptBy hle hmissing child (0 :: place)).maybe _).map _
  | .choice children, place => by
    rw [Node.draw, Node.draw]
    split
    · apply KeptBy.bind_right
      intro chosen
      exact Node.drawNth_keptBy hle hmissing children place 0 chosen
    · exact .refl _
  | .seq children distinct, place => by
    rw [Node.draw, Node.draw]
    split
    · exact .refl _
    · exact (Node.drawEach_keptBy hle hmissing children place distinct 0).map _
  | .batch child count distinct, place => by
    rw [Node.draw, Node.draw]
    apply KeptBy.bind_right
    intro n
    have hitem := keptBy_item hle (Node.draw_keptBy hle hmissing child (0 :: place)) (0 :: place) distinct
    exact (hitem.times n).map _
  | .unique child, place => by
    rw [Node.draw, Node.draw]
    exact keptBy_uniqueInRun hle (Node.draw_keptBy hle hmissing child (0 :: place)) Value.key
  | .integerFieldType p missingName, place => by
    rw [Node.draw, Node.draw]
    have hname := (Node.draw_keptBy hle hmissing missingName (0 :: place)).as Value.toText
    exact (keptBy_integerType hle hname p).bind_left _
  | .numberFieldType p missingName, place => by
    rw [Node.draw, Node.draw]
    have hname := (Node.draw_keptBy hle hmissing missingName (0 :: place)).as Value.toText
    exact (keptBy_numberType hle hname p).bind_left _
  | .stringFieldType p missingName, place => by
    rw [Node.draw, Node.draw]
    have hname := (Node.draw_keptBy hle hmissing missingName (0 :: place)).as Value.toText
    exact (keptBy_stringType hle hname p).bind_left _
  | .enumIntegerFieldType p labelName missingName, place => by
    rw [Node.draw, Node.draw]
    have hlabel := (Node.draw_keptBy hle hmissing labelName (0 :: place)).as Value.toText
    have hname := (Node.draw_keptBy hle hmissing missingName (1 :: place)).as Value.toText
    exact (keptBy_enumIntegerType hle hlabel hname p).bind_left _
  | .enumStringFieldType p labelName missingName, place => by
    rw [Node.draw, Node.draw]
    have hlabel := (Node.draw_keptBy hle hmissing labelName (0 :: place)).as Value.toText
    have hname := (Node.draw_keptBy hle hmissing missingName (1 :: place)).as Value.toText
    exact (keptBy_enumStringType hle hlabel hname p).bind_left _
  | .metaGroup groupName count fieldName title description undefinedProb, place => by
    rw [Node.draw, Node.draw]
    have hgroup := (Node.draw_keptBy hle hmissing groupName (0 :: place)).as Value.toText
    have hname := (Node.draw_keptBy hle hmissing fieldName (1 :: place)).as Value.toText
    have htitle := (Node.draw_keptBy hle hmissing title (2 :: place)).as Value.toText
    have hdescription := (Node.draw_keptBy hle hmissing description (3 :: place)).as Value.toText
    exact (keptBy_metaGroup hle hgroup hname htitle hdescription count undefinedProb).bind_left _
  | .fieldGroup groupMeta fieldType, place | .likertFieldGroup groupMeta fieldType, place => by
    rw [Node.draw, Node.draw]
    have hmeta := (Node.draw_keptBy hle hmissing groupMeta (0 :: place)).as Value.toFieldMetas
    have htype := (Node.draw_keptBy hle hmissing fieldType (1 :: place)).as Value.toFieldType
    exact (keptBy_fieldGroup hmeta htype).bind_left _
  | .tableSchema fields rows missingName missingMax undefinedProb, place => by
    rw [Node.draw, Node.draw]
    have hfields := FieldGroups.draw_keptBy hle hmissing fields (0 :: place)
    have hname := (Node.draw_keptBy hle hmissing missingName (1 :: place)).as Value.toText
    have hvalues := keptBy_missingValues hle hname missingMax undefinedProb
    exact (keptBy_tableSchema hfields hvalues rows).map _
  | .tableResource name description schema, place => by
    rw [Node.draw, Node.draw]
    have hname := (Node.draw_keptBy hle hmissing name (0 :: place)).as Value.toText
    have hdescription := (Node.draw_keptBy hle hmissing description (1 :: place)).as Value.toOptionalText
    have hschema := (Node.draw_keptBy hle hmissing schema (2 :: place)).as Value.toTableSchema
    exact (keptBy_tableResource hname hdescription hschema).map _
  | .package name description resource resources, place => by
    rw [Node.draw, Node.draw]
    have hname := (Node.draw_keptBy hle hmissing name (0 :: place)).as Value.toText
    have hdescription := (Node.draw_keptBy hle hmissing description (1 :: place)).as Value.toOptionalText
    have hresource := (Node.draw_keptBy hle hmissing resource (2 :: place)).as Value.toTableResource
    exact (keptBy_package hname hdescription hresource resources).map _

/-- The chosen alternative of a choice, found by counting the children before it. -/
theorem Node.drawNth_keptBy (hle : c.attempts ≤ attempts) (hmissing : missing.KeptBy missing') :
    ∀ (ns : List Node) (place : Place) (index chosen : Nat),
    (Node.drawNth c missing place index chosen ns).KeptBy
      (Node.drawNth (c.withAttempts attempts) missing' place index chosen ns)
  | [], _, _, _ => .refl _
  | n :: rest, place, index, chosen => by
    rw [Node.drawNth, Node.drawNth]
    split
    · exact Node.draw_keptBy hle hmissing n (index :: place)
    · exact Node.drawNth_keptBy hle hmissing rest place (index + 1) chosen

/-- The items of a sequence, in order; each may be searched for at its own place.  By induction on
    the children, which hand the state on from one to the next. -/
theorem Node.drawEach_keptBy (hle : c.attempts ≤ attempts) (hmissing : missing.KeptBy missing') :
    ∀ (ns : List Node) (place : Place) (distinct : Bool) (index : Nat),
    (Node.drawEach c missing place distinct index ns).KeptBy
      (Node.drawEach (c.withAttempts attempts) missing' place distinct index ns)
  | [], _, _, _ => .refl _
  | n :: rest, place, distinct, index => by
    rw [Node.drawEach, Node.drawEach]
    have hitem := keptBy_item hle (Node.draw_keptBy hle hmissing n (index :: place)) (index :: place) distinct
    have hrest := Node.drawEach_keptBy hle hmissing rest place distinct (index + 1)
    -- the flag decides in which form an item is drawn, not how items are put together
    cases distinct with
    | true => exact hitem.bind fun v => hrest.bind_left _
    | false => exact hitem.bind fun v => hrest.bind_left _

/-- The columns of a table, whether they come from one node or from a list of groups. -/
theorem FieldGroups.draw_keptBy (hle : c.attempts ≤ attempts) (hmissing : missing.KeptBy missing') :
    ∀ (g : FieldGroups) (place : Place),
    (FieldGroups.draw c missing place g).KeptBy
      (FieldGroups.draw (c.withAttempts attempts) missing' place g)
  | .one node, place => (Node.draw_keptBy hle hmissing node (0 :: place)).as Value.toFields
  | .many nodes, place => by
    rw [FieldGroups.draw, FieldGroups.draw]
    split
    · exact .refl _
    · exact (Node.drawGroups_keptBy hle hmissing nodes place 0).bind_left _

/-- The groups of columns of a table, one after the other. -/
theorem Node.drawGroups_keptBy (hle : c.attempts ≤ attempts) (hmissing : missing.KeptBy missing') :
    ∀ (ns : List Node) (place : Place) (index : Nat),
    (Node.drawGroups c missing place index ns).KeptBy
      (Node.drawGroups (c.withAttempts attempts) missing' place index ns)
  | [], _, _ => .refl _
  | n :: rest, place, index => by
    rw [Node.drawGroups, Node.drawGroups]
    have hfields := (Node.draw_keptBy hle hmissing n (index :: place)).as Value.toFields
    exact hfields.bind fun fs => (Node.drawGroups_keptBy hle hmissing rest place (index + 1)).bind_left _

end

end Trees

/-! ## Runs -/

namespace Run

open Draw

/-- The same run, but for the number of attempts.  Its vocabulary and its source of missing values
    stay. -/
def withAttempts (r : Run) (attempts : UInt32) : Run :=
  { r with context := r.context.withAttempts attempts }

section Calls

variable {r : Run} {attempts : UInt32} (hle : r.context.attempts ≤ attempts)

include hle

/-- A tree of its own for missing values is drawn with more attempts like any other tree. -/
theorem defaultMissing_keptBy :
    r.defaultMissing.KeptBy (r.withAttempts attempts).defaultMissing := by
  unfold defaultMissing withAttempts
  cases r.missing with
  | style s => exact .refl _
  | custom node => exact (Node.draw_keptBy hle (.refl _) node customPlace).as Value.toText

/-- A call that succeeds gives the same value and leaves the same state when its run has more
    attempts. -/
theorem draw_keptBy (number : Nat) (n : Node) :
    (r.draw number n).KeptBy ((r.withAttempts attempts).draw number n) :=
  Node.draw_keptBy hle (defaultMissing_keptBy hle) n (rootPlace number)

/-- As long as all calls succeed, the state after each is the one that the next begins with in both
    runs, so results and states stay the same to the end.  One failure would be enough to part
    them. -/
theorem calls_withAttempts (calls : List (Nat × Node)) (s : State)
    (hok : ∀ result ∈ (r.calls calls s).1, result.isOk = true) :
    (r.withAttempts attempts).calls calls s = r.calls calls s := by
  induction calls generalizing s with
  | nil => rfl
  | cons call rest ih =>
    obtain ⟨number, n⟩ := call
    rw [calls_cons] at hok
    -- `KeptBy` speaks of successes only, so the head of `hok` is turned into one first
    obtain ⟨v, hv⟩ : ∃ v, (r.draw number n s).1 = .ok v := by
      have hhead := hok _ List.mem_cons_self
      cases hresult : (r.draw number n s).1 with
      | error e =>
        rw [hresult] at hhead
        cases hhead
      | ok v => exact ⟨v, rfl⟩
    have hfirst : r.draw number n s = (.ok v, (r.draw number n s).2) := Prod.ext hv rfl
    have hsame : (r.withAttempts attempts).draw number n s = r.draw number n s := by
      rw [draw_keptBy hle number n s v _ hfirst]
      exact hfirst.symm
    have hrest := ih (r.draw number n s).2 fun result hresult =>
      hok result (List.mem_cons_of_mem _ hresult)
    rw [calls_cons, calls_cons, hsame, hrest]

end Calls

/-- Options that were accepted are accepted with more attempts, too: only none at all are refused,
    and the other options are checked without regard to them. -/
theorem check_withAttempts {o : ContextOptions} {attempts : UInt32} (ho : o.check = .ok ())
    (hle : o.maxUniqueAttempts ≤ attempts) :
    ({ o with maxUniqueAttempts := attempts } : ContextOptions).check = .ok () := by
  unfold ContextOptions.check at ho ⊢
  have hsome : o.maxUniqueAttempts ≠ 0 := by
    intro hzero
    rw [if_pos hzero] at ho
    cases ho
  have hmore : attempts ≠ 0 := by
    rintro rfl
    exact hsome (UInt32.le_zero_iff.mp hle)
  rw [if_neg hsome] at ho
  rw [if_neg hmore]
  exact ho

/-- They describe the same run, but for the attempts. -/
theorem ofOptions_withAttempts {o : ContextOptions} {custom : Option Node}
    {wordlist : String → Except VocabularyError (List String)} {r : Run} {attempts : UInt32}
    (hr : ofOptions o custom wordlist = .ok r) (hle : o.maxUniqueAttempts ≤ attempts) :
    ofOptions { o with maxUniqueAttempts := attempts } custom wordlist
      = .ok (r.withAttempts attempts) ∧ r.context.attempts = o.maxUniqueAttempts := by
  obtain ⟨hcheck, words, hwords, hsome, rfl⟩ := ofOptions_eq_ok_iff.mp hr
  have hmore := check_withAttempts hcheck hle
  exact ⟨ofOptions_eq_ok_iff.mpr ⟨hmore, words, hwords, hsome, rfl⟩, rfl⟩

/-- If every call of a run succeeds, then with more attempts the same options describe a run whose
    calls give the same values and leave the same ledger, memory and stream. -/
theorem calls_of_more_attempts {o : ContextOptions} {custom : Option Node}
    {wordlist : String → Except VocabularyError (List String)} {r : Run} {attempts : UInt32}
    (hr : ofOptions o custom wordlist = .ok r) (hle : o.maxUniqueAttempts ≤ attempts)
    (calls : List (Nat × Node)) (s : State)
    (hok : ∀ result ∈ (r.calls calls s).1, result.isOk = true) :
    ∃ r', ofOptions { o with maxUniqueAttempts := attempts } custom wordlist = .ok r' ∧
      r'.calls calls s = r.calls calls s := by
  obtain ⟨hr', hattempts⟩ := ofOptions_withAttempts hr hle
  have hle' : r.context.attempts ≤ attempts := by
    rw [hattempts]
    exact hle
  exact ⟨r.withAttempts attempts, hr', calls_withAttempts hle' calls s hok⟩

/-- Calls that look for new values among few.  Two roots share the integers 1 to 3 through the run's
    ledger, a batch wants two of them that are new at its place, and a group of two columns composes
    names from a vocabulary of three words. -/
def searchingCalls : List (Nat × Node) := [
  (0, .unique (.integer 1 3)),
  (1, .batch (.integer 1 3) (.fixed 2) true),
  (0, .unique (.integer 1 3)),
  (2, .metaGroup (.words .camelCase (.fixed 1)) ⟨2, 2⟩ (.words .camelCase (.fixed 1)) .word .word 0.5)]

/-- With the words `word`, `name` and `list`, seed 7 and 4 attempts, all of these calls succeed, one
    of their searches only at its fourth try; with 1000 attempts they give the same values and the
    same state. -/
theorem calls_of_more_attempts_searching :
    ∃ r, ofOptions { maxUniqueAttempts := 4 } none (fun _ => .ok ["word", "name", "list"]) = .ok r ∧
      (∀ result ∈ (r.calls searchingCalls (.ofSeed 7)).1, result.isOk = true) ∧
      ∃ r', ofOptions { maxUniqueAttempts := 1000 } none (fun _ => .ok ["word", "name", "list"])
          = .ok r' ∧
        r'.calls searchingCalls (.ofSeed 7) = r.calls searchingCalls (.ofSeed 7) := by
  obtain ⟨r, hr⟩ : ∃ r, ofOptions { maxUniqueAttempts := 4 } none
      (fun _ => .ok ["word", "name", "list"]) = .ok r := ⟨_, rfl⟩
  have hok : ∀ result ∈ (r.calls searchingCalls (.ofSeed 7)).1, result.isOk = true := by
    cases hr
    decide +kernel
  have hle : (4 : UInt32) ≤ 1000 := by decide
  exact ⟨r, hr, hok, calls_of_more_attempts hr hle searchingCalls (.ofSeed 7) hok⟩

end Run

end SyntheticTables
