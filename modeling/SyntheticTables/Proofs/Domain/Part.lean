/-
  Where the parts of a package lie.

  Each kind of part has a predicate that says what its parameters describe: how many there may be,
  from which range each bound comes, which texts may stand for names and for missing values.  The
  predicates take those of the slots as they come, and so do the lemmas about the draws
  (`Context.yields_integerType` and those beside it), because a slot hands on whatever its own node
  describes.  Ranges of counts are given in signed words and drawn in unsigned ones; what is
  described is the count itself, as an integer (`IntRange.HoldsCount`).
-/
import SyntheticTables.Proofs.Draw.Number
import SyntheticTables.Proofs.Draw.Part
import SyntheticTables.Proofs.Value.Typing

namespace SyntheticTables

/-! ## Ranges -/

/-- An integer from its least to its greatest, both included. -/
def IntRange.Holds (r : IntRange) (i : Int64) : Prop := r.min ≤ i ∧ i ≤ r.max

/-- As many as the range says. -/
def IntRange.HoldsCount (r : IntRange) (n : Nat) : Prop := r.min.toInt ≤ n ∧ n ≤ r.max.toInt

/-- A number from the least to the greatest.  The comparisons are those of floats, so no range holds
    a NaN, and an infinite end bounds nothing on its side. -/
def FloatRange.Holds (r : FloatRange) (x : Float) : Prop := r.min ≤ x ∧ x ≤ r.max

/-- A count from the least to the greatest that the size names.  A fixed size is a range of one
    count. -/
def SizeSpec.Holds (s : SizeSpec) (n : Nat) : Prop := s.min.toNat ≤ n ∧ n ≤ s.max.toNat

/-- A range of level counts, which begins at one or later, is in particular one of counts that are
    not negative. -/
theorem IntRange.OfLevels.ofLengths {r : IntRange} (h : r.OfLevels) : r.OfLengths :=
  ⟨h.1, Int64.le_trans (by decide) h.2⟩

/-- A signed word that is not negative, as an unsigned one. -/
theorem toInt_of_nonneg {i : Int64} (h : 0 ≤ i) :
    ((if i < 0 then 0 else i.toUInt64 : UInt64).toNat : Int) = i.toInt := by
  have hzero : (0 : Int64).toInt = 0 := by decide
  have hi := Int64.le_iff_toInt_le.mp h
  have hcond := Sample.toInt_eq_cond i
  have hword := i.toUInt64.toNat_lt
  rw [if_neg (Int64.not_lt.mpr h)]
  omega

/-- A range of counts that are not negative is the same range in unsigned words. -/
theorem IntRange.OfLengths.toSize {r : IntRange} (h : r.OfLengths) :
    r.toSize.Ordered ∧ ∀ n, r.toSize.Holds n → r.HoldsCount n := by
  have hle := Int64.le_iff_toInt_le.mp h.1
  have hmin : (r.toSize.min.toNat : Int) = r.min.toInt := toInt_of_nonneg h.2
  have hmax : (r.toSize.max.toNat : Int) = r.max.toInt := toInt_of_nonneg (Int64.le_trans h.2 h.1)
  constructor
  · refine UInt64.le_iff_toNat_le.mpr ?_
    omega
  · rintro n ⟨hlow, hhigh⟩
    constructor <;> omega

/-! ## What parameters describe -/

/-- A bound that stands alone comes from its own range; of two, one comes from each range, and the
    smaller one is first. -/
structure BoundsFrom {α : Type} [LT α] (low high : α → Prop) (lower upper : Option α) : Prop where
  lone_lower : upper = none → ∀ a ∈ lower, low a
  lone_upper : lower = none → ∀ b ∈ upper, high b
  pair : ∀ a ∈ lower, ∀ b ∈ upper, ¬ b < a ∧ (low a ∧ high b ∨ low b ∧ high a)

/-- Tokens for missing values, if there are any: unlike each other, at most so many, and each is one
    that the slot describes. -/
def TokensWithin (max : UInt64) (token : String → Prop) (tokens : Option (List String)) : Prop :=
  ∀ ts ∈ tokens, ts.Nodup ∧ ts.length ≤ max.toNat ∧ ∀ t ∈ ts, token t

/-- Leaving tokens out takes away none of this: those that stay are still distinct, no more than
    before, and still described.  A column of integer levels drops the tokens that read as one of
    its integers, and that is all that it does to them. -/
theorem TokensWithin.filter {max : UInt64} {token : String → Prop} {tokens : Option (List String)}
    (h : TokensWithin max token tokens) (keep : String → Bool) :
    TokensWithin max token (tokens.map fun ts => ts.filter keep) := by
  intro kept hkept
  obtain ⟨ts, hts, rfl⟩ := Option.mem_map.mp hkept
  obtain ⟨hnodup, hlength, hall⟩ := h ts hts
  exact ⟨hnodup.filter keep, Nat.le_trans (List.length_filter_le keep ts) hlength,
    fun t ht => hall t (List.mem_filter.mp ht).1⟩

/-- An integer column within its parameters.  The flags are drawn by chance and either outcome is
    described, so bounds and missing values are all that is said. -/
structure IntegerTypeParams.Describes (p : IntegerTypeParams) (token : String → Prop)
    (t : IntegerType) : Prop where
  bounds : BoundsFrom p.minimumRange.Holds p.maximumRange.Holds t.minimum t.maximum
  missing : TokensWithin p.missingMax token t.missingValues

/-- A number column within its parameters; as for integers, but with bounds that are floats. -/
structure NumberTypeParams.Describes (p : NumberTypeParams) (token : String → Prop)
    (t : NumberType) : Prop where
  bounds : BoundsFrom p.minimumRange.Holds p.maximumRange.Holds t.minimum t.maximum
  missing : TokensWithin p.missingMax token t.missingValues

/-- Between finite ends there are only finite numbers. -/
theorem FloatRange.Holds.isFinite {r : FloatRange} (hr : r.Ordered) {x : Float} (h : r.Holds x) :
    x.isFinite = true :=
  isFinite_of_le hr.1 hr.2.1 h.1 h.2

/-- Bounds from checked ranges are finite and in order.  A bound that stands alone comes from its
    own range, and of two each comes from one range or the other, all ends of which are finite. -/
theorem NumberTypeParams.Describes.bounded {p : NumberTypeParams} {token : String → Prop}
    {t : NumberType} (hmin : p.minimumRange.Ordered) (hmax : p.maximumRange.Ordered)
    (h : p.Describes token t) : t.Bounded := by
  have hpair : ∀ a ∈ t.minimum, ∀ b ∈ t.maximum, a.isFinite = true ∧ b.isFinite = true := by
    intro a ha b hb
    rcases (h.bounds.pair a ha b hb).2 with ⟨hlow, hhigh⟩ | ⟨hlow, hhigh⟩
    · exact ⟨hlow.isFinite hmin, hhigh.isFinite hmax⟩
    · exact ⟨hhigh.isFinite hmax, hlow.isFinite hmin⟩
  refine ⟨fun a ha => ?_, fun b hb => ?_, fun a ha b hb => ?_⟩
  · cases hupper : t.maximum with
    | none => exact (h.bounds.lone_lower hupper a ha).isFinite hmin
    | some b => exact (hpair a ha b hupper).1
  · cases hlower : t.minimum with
    | none => exact (h.bounds.lone_upper hlower b hb).isFinite hmax
    | some a => exact (hpair a hlower b hb).2
  · obtain ⟨hfinite, hfinite'⟩ := hpair a ha b hb
    exact (float_not_lt (isNumber_of_isFinite hfinite) (isNumber_of_isFinite hfinite')).mp
      (h.bounds.pair a ha b hb).1

/-- Bounds on lengths are counts. -/
structure StringTypeParams.Describes (p : StringTypeParams) (token : String → Prop)
    (t : StringType) : Prop where
  bounds : BoundsFrom (fun n : UInt64 => p.minLengthRange.HoldsCount n.toNat)
    (fun n => p.maxLengthRange.HoldsCount n.toNat) t.minLength t.maxLength
  missing : TokensWithin p.missingMax token t.missingValues

/-- Consecutive integers from a start, as many as a count says, then the tokens that were kept. -/
structure EnumIntegerTypeParams.Describes (p : EnumIntegerTypeParams)
    (label token : String → Prop) (t : EnumIntegerType) : Prop where
  values : ∃ start count stop : Int64, p.levelStartRange.Holds start ∧
    p.levelCountRange.Holds count ∧ stop.toInt = start.toInt + count.toInt ∧
    t.levels.map (·.value) = (Context.integersFrom start stop).map .int
      ++ (t.missingValues.getD []).map .text
  labels : ∀ l ∈ t.levels, ∀ s ∈ l.label, label s
  missing : TokensWithin p.missingMax token t.missingValues

/-- Levels that are texts: unlike each other, as many as the range says, and each from where the
    labels come from.  There are no labels beside them. -/
structure EnumStringTypeParams.Describes (p : EnumStringTypeParams) (label token : String → Prop)
    (t : EnumStringType) : Prop where
  distinct : t.levels.Nodup
  count : p.levelCountRange.HoldsCount t.levels.length
  labels : ∀ l ∈ t.levels, label l
  missing : TokensWithin p.missingMax token t.missingValues

/-- Columns of one group: as many as the range says, and their names begin with that of the group. -/
structure MetasWithin (count : IntRange) (group name title description : String → Prop)
    (metas : List FieldMeta) : Prop where
  count : count.HoldsCount metas.length
  named : ∃ g, group g ∧ ∀ m ∈ metas, ∃ n, name n ∧ m.name = g ++ "_" ++ n
  titled : ∀ m ∈ metas, ∀ t ∈ m.title, title t
  described : ∀ m ∈ metas, ∀ d ∈ m.description, description d

/-- Columns whose metas are of one group, each with a type of its own. -/
structure FieldsWithin (metas : List FieldMeta → Prop) (type : FieldType → Prop)
    (fields : List Field) : Prop where
  metas : metas (fields.map Field.info)
  typed : ∀ f ∈ fields, type f.type

/-- The columns of the slot, at most so many missing values, and a number of rows that the size
    allows.  Each part keeps to its own slot and no part depends on another. -/
structure SchemaWithin (fields : List Field → Prop) (missingMax : UInt64) (token : String → Prop)
    (rows : SizeSpec) (schema : TableSchema) : Prop where
  fields : fields schema.fields
  missing : TokensWithin missingMax token schema.missingValues
  rows : rows.Holds schema.rowCount.toNat

/-- A table whose name, description and schema come from their slots.  Its rows do not show here:
    they follow from the schema. -/
structure ResourceWithin (name : String → Prop) (description : Option String → Prop)
    (schema : TableSchema → Prop) (resource : TableResource) : Prop where
  name : name resource.name
  description : description resource.description
  schema : schema resource.schema

/-- As many resources as the size allows, all of them from one slot, and a name and a description
    from theirs. -/
structure PackageWithin (name : String → Prop) (description : Option String → Prop)
    (count : SizeSpec) (resource : TableResource → Prop) (package : Package) : Prop where
  name : name package.name
  description : description package.description
  count : count.Holds package.resources.length
  resources : ∀ r ∈ package.resources, resource r

/-! ## Draws -/

namespace Draw

variable {α β : Type} {P Q : α → Prop} {m : Draw α}

/-- All values of the draw are as asked for; it may end in any error. -/
abbrev Yields (P : α → Prop) (m : Draw α) : Prop := Gives (fun _ => True) P m

namespace Yields

/-- Two things known of the same draw are known together.  It reads the same outcome twice, so the
    state need not be passed from one to the other. -/
theorem both (h : Yields P m) (h' : Yields Q m) : Yields (fun a => P a ∧ Q a) m := fun s => by
  obtain ⟨new, hstep, hp⟩ := h s
  obtain ⟨_, -, hq⟩ := h' s
  refine ⟨new, hstep, ?_⟩
  cases hresult : (m s).1 with
  | error e => trivial
  | ok a =>
    rw [hresult] at hp hq
    exact ⟨hp, hq⟩

/-- What a coin decides on may be missing; if it is there, it is as the draw gives it. -/
theorem maybe (h : Yields P m) (p : Float) : Yields (fun o => ∀ a ∈ o, P a) (Draw.maybe p m) :=
  Meets.maybe nofun (h.mono fun _ _ ha _ hb => Option.some.inj hb ▸ ha)

/-- Repeating a draw makes a list of the right length whose elements are all as asked for. -/
theorem times (h : Yields P m) (n : Nat) :
    Yields (fun as => (∀ a ∈ as, P a) ∧ as.length = n) (Draw.times n m) := by
  refine Meets.times (R := fun _ as => ∀ a ∈ as, P a) (by simp) (fun _ as has => ?_) n
  refine h.mono fun _ a ha => ?_
  simpa [or_imp, forall_and] using ⟨has, ha⟩

/-- What has the form a slot needs is still in the domain of the slot's node. -/
theorem slot {P : Value → Prop} {m : Draw Value} {form : α → Value}
    {convert : Value → Except GenError α} (h : Yields P m)
    (hconvert : ∀ v a, convert v = .ok a ↔ v = form a) :
    Yields (fun a => P (form a)) (m.as convert) := by
  refine .as h fun _ v hv => ?_
  cases hresult : convert v with
  | error e => trivial
  | ok a =>
    have hform := (hconvert v a).mp hresult
    subst hform
    exact hv

/-- A slot for texts hands on what its node describes, read as a text.  This is the case of `slot`
    that names, labels and tokens need. -/
theorem text {P : Value → Prop} {m : Draw Value} (h : Yields P m) :
    Yields (fun s => P (.text s)) (m.as Value.toText) :=
  h.slot fun _ _ => Value.toText_eq_ok

end Yields

end Draw

namespace Context

open Draw

variable (c : Context)

/-! ## Words and tokens -/

/-- The text joins words of the vocabulary, as many as the size says. -/
def IsJoined (joiner : Joiner) (count : SizeSpec) (text : String) : Prop :=
  ∃ words : List String, (∀ w ∈ words, w ∈ c.vocabulary) ∧ count.Holds words.length ∧
    text = joiner.join words

/-- The text is a token for missing values in a style. -/
def IsToken : MissingStyle → String → Prop
  | .spss => fun text => ∃ i : Int64, -1000 ≤ i ∧ i ≤ -1 ∧ text = toString i
  | .stata => fun text => ∃ i, i < 26 ∧ text = "." ++ (Char.ofNat ('a'.toNat + i)).toString
  | .underscore => fun text =>
    ∃ name, c.IsJoined .snakeCaseCaps (.range 1 3) name ∧ text = "_" ++ name ++ "_"

/-- So many words joined make a joined text, if their number is one that the size allows. -/
theorem yields_words (joiner : Joiner) {count : SizeSpec} {n : Nat} (hn : count.Holds n) :
    Yields (c.IsJoined joiner count) (c.words joiner n) := by
  refine (Yields.times c.gives_word n).bind fun _ words hwords => .pure ?_
  exact ⟨words, hwords.1, hwords.2 ▸ hn, rfl⟩

/-- Whatever the style, the name drawn for a missing value is one of its tokens: an integer from
    -1000 to -1, a period and a letter, or words between underscores. -/
theorem yields_missingName (style : MissingStyle) :
    Yields (c.IsToken style) (c.missingName style) := by
  cases style with
  | spss =>
    refine (Meets.sample (R := fun _ i => -1000 ≤ i ∧ i ≤ -1) fun s => Sample.int64_mem _ s).bind
      fun _ i hi => .pure ⟨i, hi.1, hi.2, rfl⟩
  | stata =>
    refine (Meets.sample (R := fun _ i => i < 26) fun s => Sample.index_lt _ s).bind
      fun _ i hi => .pure ⟨i, hi, rfl⟩
  | underscore =>
    refine (Meets.sample (R := fun _ i => i < 3) fun s => Sample.index_lt _ s).bind
      fun _ i hi => ?_
    have hcount : (SizeSpec.range 1 3).Holds (i + 1) := ⟨by simp [SizeSpec.min], by
      simp [SizeSpec.max]; omega⟩
    exact (c.yields_words .snakeCaseCaps hcount).bind fun _ name hname => .pure ⟨name, hname, rfl⟩

/-! ## Texts unlike each other -/

section Texts

variable {T : String → Prop} {m : Draw String} (hm : Yields T m)

include hm

/-- Searching for a text that was not seen only passes over values; the one it ends at is still one
    that the draw gives. -/
theorem yields_newText (seen : Std.TreeSet String) :
    Yields (fun p => T p.1) (c.newText seen m) := by
  refine .retry (fun _ _ _ h => h) trivial hm (fun _ s hs => .pure fun p hp => ?_) _
  split at hp
  · cases hp
  · cases hp
    exact hs

/-- The same for many texts one after the other, put to those that were drawn before. -/
theorem yields_newTextsOnto : ∀ (n : Nat) (seen : Std.TreeSet String) (drawn : List String),
    (∀ t ∈ drawn, T t) → Yields (fun ts => ∀ t ∈ ts, T t) (c.newTextsOnto m seen drawn n)
  | 0, _, _, hdrawn => .pure fun t ht => hdrawn t (List.mem_reverse.mp ht)
  | n + 1, seen, _, hdrawn => (c.yields_newText hm seen).bind fun _ p hp =>
    yields_newTextsOnto n p.2 _ (List.forall_mem_cons.mpr ⟨hp, hdrawn⟩)

/-- Distinct texts: as many as the size allows, none twice, and each from the draw. -/
theorem yields_distinctTexts {count : SizeSpec} (hcount : count.Ordered) :
    Yields (fun ts => ts.Nodup ∧ count.Holds ts.length ∧ ∀ t ∈ ts, T t)
      (c.distinctTexts count m) := by
  refine (gives_size hcount).bind fun _ n hn => ?_
  have hany : Yields (fun _ => True) m := hm.mono fun _ _ _ => trivial
  refine (Yields.both (c.gives_newTextsOnto trivial hany n .nil)
    (c.yields_newTextsOnto hm n ∅ [] nofun)).mono fun _ ts hts => ?_
  obtain ⟨⟨hnodup, hlength⟩, hall⟩ := hts
  rw [List.length_nil, Nat.zero_add] at hlength
  exact ⟨hnodup, hlength ▸ hn, hall⟩

/-- Tokens for missing values are distinct, no more than the greatest number, and each from the
    draw, if the coin decides for any.  The size they are drawn with begins at zero. -/
theorem yields_missingValues (max : UInt64) (undefinedProb : Float) :
    Yields (TokensWithin max T) (c.missingValues m max undefinedProb) := by
  have hrange : (SizeSpec.range 0 max).Ordered := UInt64.le_iff_toNat_le.mpr (Nat.zero_le _)
  refine (Yields.maybe (c.yields_distinctTexts hm hrange) _).mono fun _ tokens htokens ts hts => ?_
  obtain ⟨hnodup, hlength, hall⟩ := htokens ts hts
  exact ⟨hnodup, hlength.2, hall⟩

/-- Each level gets a label from the draw, or none does.  The induction is on the values of the
    levels, and the labels given before are put in front. -/
theorem yields_labelsOnto (labeled : Bool) (values : List LevelValue) (seen : Std.TreeSet String)
    (drawn : List Level) (hdrawn : ∀ l ∈ drawn, ∀ t ∈ l.label, T t) :
    Yields (fun ls => ∀ l ∈ ls, ∀ t ∈ l.label, T t) (c.labelsOnto m labeled seen drawn values) := by
  induction values generalizing seen drawn with
  | nil => exact .pure fun l hl => hdrawn l (List.mem_reverse.mp hl)
  | cons value rest ih =>
    unfold labelsOnto
    cases labeled with
    | true =>
      refine (c.yields_newText hm seen).bind fun _ p hp => ih p.2 _ ?_
      exact List.forall_mem_cons.mpr ⟨fun t ht => Option.some.inj ht ▸ hp, hdrawn⟩
    | false => exact ih seen _ (List.forall_mem_cons.mpr ⟨by simp, hdrawn⟩)

end Texts

/-! ## Bounds -/

/-- Two bounds drawn from a range each and put into order.  The order may swap them, which is why
    `BoundsFrom.pair` allows the smaller one to come from the upper range. -/
theorem boundsFrom_orderBounds {α : Type} [LT α] [DecidableLT α] {low high : α → Prop}
    (hasymm : ∀ {x y : α}, x < y → ¬ y < x) {a b : Option α} (ha : ∀ x ∈ a, low x)
    (hb : ∀ y ∈ b, high y) :
    BoundsFrom low high (orderBounds a b).1 (orderBounds a b).2 := by
  have hordered := orderBounds_ordered hasymm a b
  cases a with
  | none => exact ⟨nofun, fun _ => hb, nofun⟩
  | some x =>
    cases b with
    | none => exact ⟨fun _ => ha, nofun, fun _ _ _ hy => nomatch hy⟩
    | some y =>
      have hx := ha x rfl
      have hy := hb y rfl
      unfold orderBounds at hordered ⊢
      -- only two bounds can be out of order, and then they change places together with their ranges
      by_cases hlt : y < x
      · simp only [if_pos hlt] at hordered ⊢
        refine ⟨nofun, nofun, fun u hu v hv => ?_⟩
        cases hu
        cases hv
        exact ⟨hordered y rfl x rfl, .inr ⟨hx, hy⟩⟩
      · simp only [if_neg hlt] at hordered ⊢
        refine ⟨nofun, nofun, fun u hu v hv => ?_⟩
        cases hu
        cases hv
        exact ⟨hlt, .inl ⟨hx, hy⟩⟩

/-- A length from a range of counts, which is drawn as a signed word and kept as an unsigned one. -/
theorem yields_length {r : IntRange} (h : r.OfLengths) :
    Yields (fun n : UInt64 => r.HoldsCount n.toNat) (c.length r) := by
  refine (gives_int_of_le h.1).bind fun _ i hi => .pure ?_
  have hlow := Int64.le_iff_toInt_le.mp hi.1
  have hhigh := Int64.le_iff_toInt_le.mp hi.2
  have hcount := toInt_of_nonneg (Int64.le_trans h.2 hi.1)
  constructor <;> omega

/-- A number from a checked range: its ends are finite and in order, so the ends are bounds for the
    sampler as they stand. -/
theorem yields_float {r : FloatRange} (h : r.Ordered) :
    Yields r.Holds (Draw.float r.min r.max) := by
  obtain ⟨hmin, hmax, hordered⟩ := h
  have hle := (float_not_lt (isNumber_of_isFinite hmin) (isNumber_of_isFinite hmax)).mp hordered
  exact gives_float_of_le hmin hmax hle

/-! ## Column types -/

section Types

variable {label token : String → Prop} {labelName missingName : Draw String}
  (hlabel : Yields label labelName) (hmissing : Yields token missingName)

include hmissing

/-- The flags of a column are not asked about, so only the missing values follow the bounds. -/
theorem yields_integerType {p : IntegerTypeParams} (hmin : p.minimumRange.Ordered)
    (hmax : p.maximumRange.Ordered) :
    Yields (p.Describes token) (c.integerType p missingName) := by
  unfold integerType
  refine (Yields.maybe (P := p.minimumRange.Holds) (gives_int_of_le hmin) _).bind fun _ a ha => ?_
  refine (Yields.maybe (P := p.maximumRange.Holds) (gives_int_of_le hmax) _).bind fun _ b hb => ?_
  have hbounds := boundsFrom_orderBounds (fun h => Int64.not_lt.mpr (Int64.le_of_lt h)) ha hb
  generalize orderBounds a b = bounds at hbounds ⊢
  obtain ⟨minimum, maximum⟩ := bounds
  refine (c.gives_flag _ _).bind fun _ _ _ => (c.gives_flag _ _).bind fun _ _ _ => ?_
  exact (c.yields_missingValues hmissing _ _).bind fun _ _ htokens => .pure ⟨hbounds, htokens⟩

/-- As for integers; the bounds come into order by the comparison of floats, which is asymmetric on
    all floats, so NaN needs no case of its own. -/
theorem yields_numberType {p : NumberTypeParams} (hmin : p.minimumRange.Ordered)
    (hmax : p.maximumRange.Ordered) :
    Yields (p.Describes token) (c.numberType p missingName) := by
  unfold numberType
  refine (Yields.maybe (yields_float hmin) _).bind fun _ a ha => ?_
  refine (Yields.maybe (yields_float hmax) _).bind fun _ b hb => ?_
  have hbounds := boundsFrom_orderBounds float_lt_asymm ha hb
  generalize orderBounds a b = bounds at hbounds ⊢
  obtain ⟨minimum, maximum⟩ := bounds
  refine (c.gives_flag _ _).bind fun _ _ _ => (c.gives_flag _ _).bind fun _ _ _ => ?_
  exact (c.yields_missingValues hmissing _ _).bind fun _ _ htokens => .pure ⟨hbounds, htokens⟩

/-- As for integers, with lengths for bounds.  The pattern is always left out. -/
theorem yields_stringType {p : StringTypeParams} (hmin : p.minLengthRange.OfLengths)
    (hmax : p.maxLengthRange.OfLengths) :
    Yields (p.Describes token) (c.stringType p missingName) := by
  unfold stringType
  refine (Yields.maybe (c.yields_length hmin) _).bind fun _ a ha => ?_
  refine (Yields.maybe (c.yields_length hmax) _).bind fun _ b hb => ?_
  have hbounds := boundsFrom_orderBounds (fun h => UInt64.not_lt.mpr (UInt64.le_of_lt h)) ha hb
  generalize orderBounds a b = bounds at hbounds ⊢
  obtain ⟨minLength, maxLength⟩ := bounds
  refine (c.gives_flag _ _).bind fun _ _ _ => (c.gives_flag _ _).bind fun _ _ _ => ?_
  exact (c.yields_missingValues hmissing _ _).bind fun _ _ htokens => .pure ⟨hbounds, htokens⟩

include hlabel

/-- A column of integer levels: consecutive integers, behind them the tokens, and labels from their
    slot.  That the integers do not wrap is `hfit`, one of the things that the check asks for. -/
theorem yields_enumIntegerType {p : EnumIntegerTypeParams} (hstart : p.levelStartRange.Ordered)
    (hcount : p.levelCountRange.OfLevels) (hfit : Check.levelsOverflow p = false) :
    Yields (p.Describes label token) (c.enumIntegerType p labelName missingName) := by
  unfold enumIntegerType
  refine (gives_levelRange hstart hcount hfit).bind fun _ range hrange => ?_
  obtain ⟨start, stop⟩ := range
  obtain ⟨count, hfirst, hn, hend⟩ := hrange
  refine (c.yields_missingValues hmissing _ _).bind fun _ tokens htokens => ?_
  refine (gives_chance _).bind fun _ unlabeled _ => ?_
  have hany : Yields (fun _ => True) labelName := hlabel.mono fun _ _ _ => trivial
  -- the values of the levels and their labels are known from two lemmas about one draw
  refine (Yields.both (c.gives_labelsOnto trivial hany _ _ .nil)
    (c.yields_labelsOnto hlabel _ _ ∅ [] nofun)).bind fun _ levels hlevels => ?_
  obtain ⟨⟨hvalues, -⟩, hlabels⟩ := hlevels
  rw [List.reverse_nil, List.map_nil, List.nil_append] at hvalues
  refine (c.gives_flag _ _).bind fun _ _ _ => (c.gives_flag _ _).bind fun _ _ _ => ?_
  refine (c.gives_flag _ _).bind fun _ _ _ => .pure ?_
  exact ⟨⟨start, count, stop, hfirst, hn, hend, hvalues⟩, hlabels, htokens.filter _⟩

/-- A column of text levels: distinct labels, as many as the range says, and tokens beside them. -/
theorem yields_enumStringType {p : EnumStringTypeParams} (hcount : p.levelCountRange.OfLevels) :
    Yields (p.Describes label token) (c.enumStringType p labelName missingName) := by
  unfold enumStringType
  obtain ⟨hordered, hsize⟩ := hcount.ofLengths.toSize
  refine (c.yields_distinctTexts hlabel hordered).bind fun _ levels hlevels => ?_
  obtain ⟨hnodup, hlength, hlabels⟩ := hlevels
  refine (c.gives_flag _ _).bind fun _ _ _ => (c.gives_flag _ _).bind fun _ _ _ => ?_
  refine (c.gives_flag _ _).bind fun _ _ _ => ?_
  refine (c.yields_missingValues hmissing _ _).bind fun _ _ htokens => .pure ?_
  exact ⟨hnodup, hsize _ hlength, hlabels, htokens⟩

end Types

/-! ## Values that are new -/

/-- That a value has to be new in the run takes values away and adds none. -/
theorem yields_uniqueInRun {α : Type} {P : α → Prop} {m : Draw α} (h : Yields P m)
    (key : α → String) : Yields P (c.uniqueInRun key m) := by
  refine (c.meets_uniqueInRun trivial (fun _ _ _ hp => hp) h).mono ?_
  rintro _ a ⟨_, -, ha⟩
  exact ha

/-- An element of a list is what its draw gives, whether or not it has to be unlike the elements
    before it. -/
theorem yields_item {P : Value → Prop} {m : Draw Value} (h : Yields P m) (place : Place)
    (distinct : Bool) : Yields P (if distinct then c.uniqueAt place m else m) := by
  cases distinct with
  | true => exact c.meets_uniqueAt trivial (fun _ _ _ hp => hp) h
  | false => exact h

/-! ## Columns -/

section Columns

variable {group name title description : String → Prop}
  {groupName fieldName titleName descriptionName : Draw String}

/-- Columns of one group: the group has its name first, and the name of each column is put together
    from it and a name of its own.  Both searches are for names that are new in the run. -/
theorem yields_metaGroup {count : IntRange} (hcount : count.OfLengths) (undefinedProb : Float)
    (hgroup : Yields group groupName) (hname : Yields name fieldName)
    (htitle : Yields title titleName) (hdescription : Yields description descriptionName) :
    Yields (MetasWithin count group name title description)
      (c.metaGroup count undefinedProb groupName fieldName titleName descriptionName) := by
  obtain ⟨hordered, hsize⟩ := hcount.toSize
  refine (c.yields_uniqueInRun hgroup textKey).bind fun _ g hg => ?_
  refine (gives_size hordered).bind fun _ n hn => ?_
  -- what is known of each column, the name of the group being fixed by now
  let Named : FieldMeta → Prop := fun m => (∃ x, name x ∧ m.name = g ++ "_" ++ x) ∧
    (∀ t ∈ m.title, title t) ∧ ∀ d ∈ m.description, description d
  have hmeta : Yields Named (do
      let name ← c.composedName g fieldName
      let title ← Draw.maybe (1.0 - undefinedProb) titleName
      let description ← Draw.maybe (1.0 - undefinedProb) descriptionName
      return { name, title, description }) := by
    have hcomposed : Yields (fun s => ∃ x, name x ∧ s = g ++ "_" ++ x)
        (c.composedName g fieldName) :=
      c.yields_uniqueInRun (hname.bind fun _ x hx => .pure ⟨x, hx, rfl⟩) textKey
    exact hcomposed.bind fun _ _ hn => (htitle.maybe _).bind fun _ _ ht =>
      (hdescription.maybe _).bind fun _ _ hd => .pure ⟨hn, ht, hd⟩
  refine (hmeta.times n).mono fun _ metas hmetas => ?_
  obtain ⟨hall, hlength⟩ := hmetas
  exact {
    count := hsize _ (hlength ▸ hn)
    named := ⟨g, hg, fun m hm => (hall m hm).1⟩
    titled := fun m hm => (hall m hm).2.1
    described := fun m hm => (hall m hm).2.2 }

end Columns

/-- Every column of a group gets a type drawn for it alone; the metas are taken over as they are. -/
theorem yields_fieldGroup {metas : List FieldMeta → Prop} {type : FieldType → Prop}
    {groupMeta : Draw (List FieldMeta)} {fieldType : Draw FieldType}
    (hmetas : Yields metas groupMeta) (htype : Yields type fieldType) :
    Yields (FieldsWithin metas type) (c.fieldGroup groupMeta fieldType) := by
  refine hmetas.bind fun _ ms hms => (c.gives_fieldsOnto htype ms []).mono fun _ fs hfs => ?_
  obtain ⟨hinfos, htypes⟩ := hfs
  rw [List.reverse_nil, List.map_nil, List.nil_append] at hinfos
  exact ⟨hinfos ▸ hms, fun f hf => (htypes f hf).elim (absurd · List.not_mem_nil) id⟩

/-! ## Tables and packages -/

/-- A schema puts together what its slots give.  The number of rows passes through an unsigned word,
    and what the size allows always fits one. -/
theorem yields_tableSchema {P : List Field → Prop} {fields : Draw (List Field)}
    {missingMax : UInt64} {token : String → Prop} {missingValues : Draw (Option (List String))}
    {rows : SizeSpec} (hfields : Yields P fields)
    (hmissing : Yields (TokensWithin missingMax token) missingValues) (hrows : rows.Ordered) :
    Yields (SchemaWithin P missingMax token rows) (c.tableSchema fields missingValues rows) := by
  refine hfields.bind fun _ fs hfs => hmissing.bind fun _ tokens htokens => ?_
  refine (gives_size hrows).bind fun _ n hn => .pure ⟨hfs, htokens, ?_⟩
  -- the number that was drawn is at most a word
  have hword := rows.max.toNat_lt
  have hcount : n.toUInt64.toNat = n := by
    rw [UInt64.toNat_ofNat']
    exact Nat.mod_eq_of_lt (Nat.lt_of_le_of_lt hn.2 hword)
  show rows.Holds n.toUInt64.toNat
  rwa [hcount]

variable {name : String → Prop} {description : Option String → Prop} {nameDraw : Draw String}
  {descriptionDraw : Draw (Option String)} (hname : Yields name nameDraw)
  (hdescription : Yields description descriptionDraw)

include hname hdescription

/-- A table has the schema that was drawn first; the rows are drawn from it before the name, and
    change nothing that is described. -/
theorem yields_tableResource {P : TableSchema → Prop} {schema : Draw TableSchema}
    (hschema : Yields P schema) :
    Yields (ResourceWithin name description P)
      (c.tableResource nameDraw descriptionDraw schema) := by
  refine hschema.bind fun _ s hs => (c.gives_rows s fun _ _ _ => trivial).bind fun _ rows _ => ?_
  exact hname.bind fun _ _ hn => hdescription.bind fun _ _ hd => .pure ⟨hn, hd, hs⟩

/-- A package has its name and description first, then as many resources as the size allows. -/
theorem yields_package {P : TableResource → Prop} {resource : Draw TableResource}
    {count : SizeSpec} (hcount : count.Ordered) (hresource : Yields P resource) :
    Yields (PackageWithin name description count P)
      (c.package nameDraw descriptionDraw count resource) := by
  refine hname.bind fun _ _ hn => hdescription.bind fun _ _ hd => ?_
  refine (gives_size hcount).bind fun _ n hsize => (hresource.times n).bind fun _ rs hrs => ?_
  exact .pure ⟨hn, hd, hrs.2 ▸ hsize, hrs.1⟩

end Context

end SyntheticTables
