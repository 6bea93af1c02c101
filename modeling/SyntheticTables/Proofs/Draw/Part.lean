/-
  The parts of a package, each by one lemma about its draw.

  The lemmas take the draws of the slots as they come: they ask of a slot only what the part hands
  on.  Names of columns are the one thing that the parts pass along to each other, from the meta group
  that claims them to the package: `Carries` follows them, and where the columns of a table come
  together their keys were handed out in one stretch of the run, so the names are distinct
  (`carries_tableSchema`).
-/
import SyntheticTables.Proofs.Draw.Cell
import SyntheticTables.Proofs.Draw.Uniqueness
import SyntheticTables.Proofs.Float
import SyntheticTables.Proofs.Config.WellFormed

namespace SyntheticTables

/-! ## Bounds -/

/-- Ordered bounds are in order, for whatever kind of bounds: all that is asked of the order is that
    of two values at most one is below the other, since floats have no more to offer. -/
theorem orderBounds_ordered {α : Type} [LT α] [DecidableLT α]
    (hasymm : ∀ {x y : α}, x < y → ¬ y < x) (a b : Option α) :
    ∀ x ∈ (orderBounds a b).1, ∀ y ∈ (orderBounds a b).2, ¬ y < x := by
  intro x hx y hy
  match a, b with
  | none, _ => cases hx
  | some _, none => cases hy
  | some a, some b =>
    simp only [orderBounds] at hx hy
    by_cases h : b < a
    · rw [if_pos h] at hx hy
      cases hx
      cases hy
      exact hasymm h
    · rw [if_neg h] at hx hy
      cases hx
      cases hy
      exact h

/-- The keys of some names. -/
def nameKeys (names : List String) : List String := names.map Context.textKey

/-- Unlike keys mean unlike names, because equal names have equal keys. -/
theorem nodup_of_nameKeys {names : List String} (h : (nameKeys names).Nodup) : names.Nodup :=
  (List.pairwise_map.mp h).imp fun hne heq => hne (congrArg Context.textKey heq)

namespace Context

open Draw

variable {E : GenError → Prop} (c : Context)

/-! ## Attributes of columns -/

/-- What may be left out can be drawn if it can be drawn when it is there. -/
theorem gives_maybe {α : Type} {p : Float} {m : Draw α} (h : Gives E (fun _ => True) m) :
    Gives E (fun _ => True) (Draw.maybe p m) := .maybe trivial h

/-- A flag can be drawn, or its absence. -/
theorem gives_flag (prob undefinedProb : Float) :
    Gives E (fun _ => True) (c.flag prob undefinedProb) := gives_maybe (gives_chance prob)

/-! ## Levels -/

/-- The levels of the widest range are words, so the end of any range is where it should be.  The
    check asks about the greatest start and the greatest count together, and all others stay below
    their sum. -/
theorem saturatingAdd_levels {p : EnumIntegerTypeParams} (hfit : Check.levelsOverflow p = false)
    {start count : Int64} (hstart : start ≤ p.levelStartRange.max) (hpos : 1 ≤ count)
    (hcount : count ≤ p.levelCountRange.max) :
    (saturatingAdd start count).toInt = start.toInt + count.toInt := by
  have hone : (1 : Int64).toInt = 1 := by decide
  have hfit : ¬ Int64.maxValue.toInt < p.levelStartRange.max.toInt + p.levelCountRange.max.toInt :=
    of_decide_eq_false hfit
  have hstart := Int64.le_iff_toInt_le.mp hstart
  have hpos := Int64.le_iff_toInt_le.mp hpos
  have hcount := Int64.le_iff_toInt_le.mp hcount
  have hmin := Int64.minValue_le_toInt start
  exact saturatingAdd_toInt (by omega) (by omega)

/-- A drawn range starts where it may and ends as far behind its start as it counts levels. -/
theorem gives_levelRange {p : EnumIntegerTypeParams} (hstart : p.levelStartRange.Ordered)
    (hcount : p.levelCountRange.OfLevels) (hfit : Check.levelsOverflow p = false) :
    Gives E (fun q => ∃ count, (p.levelStartRange.min ≤ q.1 ∧ q.1 ≤ p.levelStartRange.max) ∧
        (p.levelCountRange.min ≤ count ∧ count ≤ p.levelCountRange.max) ∧
        q.2.toInt = q.1.toInt + count.toInt)
      (Draw.interval p.levelStartRange p.levelCountRange) := by
  refine (gives_interval hstart hcount.1).mono fun _ q hq => ?_
  obtain ⟨count, hfirst, hn, hstop⟩ := hq
  have hpos : 1 ≤ count := Int64.le_trans hcount.2 hn.1
  refine ⟨count, hfirst, hn, ?_⟩
  rw [hstop, saturatingAdd_levels hfit hfirst.2 hpos hn.2]

/-- A range of numbers of levels asks for at least one, also when its ends are taken as unsigned
    words: the check refuses those below one, so neither end is changed by that. -/
theorem toSize_levels {r : IntRange} (h : r.OfLevels) :
    r.toSize.min ≤ r.toSize.max ∧ 0 < r.toSize.min.toNat := by
  have hone : (1 : Int64).toInt = 1 := by decide
  have hzero : (0 : Int64).toInt = 0 := by decide
  have hmin := Int64.le_iff_toInt_le.mp h.2
  have hmax := Int64.le_iff_toInt_le.mp h.1
  -- both ends are positive, so their unsigned reading is their value
  have hlow := Sample.toInt_eq_cond r.min
  have hhigh := Sample.toInt_eq_cond r.max
  have hl := r.min.toUInt64.toNat_lt
  have hh := r.max.toUInt64.toNat_lt
  have hnmin : ¬ r.min < 0 := fun hn => by
    have := Int64.lt_iff_toInt_lt.mp hn
    omega
  have hnmax : ¬ r.max < 0 := fun hn => by
    have := Int64.lt_iff_toInt_lt.mp hn
    omega
  simp only [IntRange.toSize, SizeSpec.min, SizeSpec.max, hnmin, hnmax, if_false,
    UInt64.le_iff_toNat_le]
  omega

/-- There is an integer in a range that ends behind its start. -/
theorem integersFrom_ne_nil {start stop : Int64} (h : start < stop) :
    integersFrom start stop ≠ [] := by
  have hlt := Int64.lt_iff_toInt_lt.mp h
  unfold integersFrom
  rw [ne_eq, List.map_eq_nil_iff, List.range_eq_nil]
  omega

/-! ## Column types -/

section Types

variable {labelName missingName : Draw String} (hlabel : Gives E (fun _ => True) labelName)
  (hmissing : Gives E (fun _ => True) missingName)
  (hE : E (.uniquenessExhausted .generator c.attempts))

include hmissing hE

/-- Tokens for missing values can be drawn, or their absence, unless a search among them uses up its
    attempts. -/
theorem gives_missingValues (max : UInt64) (undefinedProb : Float) :
    Gives E (fun _ => True) (c.missingValues missingName max undefinedProb) :=
  gives_maybe ((c.gives_distinctTexts hE hmissing).mono fun _ _ _ => trivial)

/-- A column of integers is sound whatever its parameters are, since its bounds are ordered after
    they are drawn. -/
theorem gives_integerType (p : IntegerTypeParams) :
    Gives E (fun t => (FieldType.integer t).Sound) (c.integerType p missingName) := by
  unfold integerType
  refine (gives_maybe ((gives_int _ _).mono fun _ _ _ => trivial)).bind fun _ a _ => ?_
  refine (gives_maybe ((gives_int _ _).mono fun _ _ _ => trivial)).bind fun _ b _ => ?_
  have hordered := orderBounds_ordered (fun h => Int64.not_lt.mpr (Int64.le_of_lt h)) a b
  generalize orderBounds a b = bounds at hordered ⊢
  obtain ⟨minimum, maximum⟩ := bounds
  refine (c.gives_flag _ _).bind fun _ _ _ => (c.gives_flag _ _).bind fun _ _ _ => ?_
  refine (c.gives_missingValues hmissing hE _ _).bind fun _ _ _ => .pure ⟨?_, trivial⟩
  exact fun x hx y hy => Int64.not_lt.mp (hordered x hx y hy)

/-- So is a column of floats, with the order of floats in the place of that of integers. -/
theorem gives_numberType (p : NumberTypeParams) :
    Gives E (fun t => (FieldType.number t).Sound) (c.numberType p missingName) := by
  unfold numberType
  refine (gives_maybe (gives_float _ _)).bind fun _ a _ => ?_
  refine (gives_maybe (gives_float _ _)).bind fun _ b _ => ?_
  have hordered := orderBounds_ordered float_lt_asymm a b
  generalize orderBounds a b = bounds at hordered ⊢
  obtain ⟨minimum, maximum⟩ := bounds
  refine (c.gives_flag _ _).bind fun _ _ _ => (c.gives_flag _ _).bind fun _ _ _ => ?_
  refine (c.gives_missingValues hmissing hE _ _).bind fun _ _ _ => .pure ⟨?_, trivial⟩
  exact hordered

/-- So is a column of texts, whose bounds are lengths: two of them come into order after they were
    drawn, and nothing else is asked of the column. -/
theorem gives_stringType (p : StringTypeParams) :
    Gives E (fun t => (FieldType.string t).Sound) (c.stringType p missingName) := by
  have hlength : ∀ r, Gives E (fun _ => True) (c.length r) := fun r =>
    (gives_int r.min r.max).bind fun _ _ _ => .pure trivial
  unfold stringType
  refine (gives_maybe (hlength _)).bind fun _ a _ => ?_
  refine (gives_maybe (hlength _)).bind fun _ b _ => ?_
  have hordered := orderBounds_ordered (fun h => UInt64.not_lt.mpr (UInt64.le_of_lt h)) a b
  generalize orderBounds a b = bounds at hordered ⊢
  obtain ⟨minLength, maxLength⟩ := bounds
  refine (c.gives_flag _ _).bind fun _ _ _ => (c.gives_flag _ _).bind fun _ _ _ => ?_
  refine (c.gives_missingValues hmissing hE _ _).bind fun _ _ _ => .pure ⟨?_, trivial⟩
  exact fun x hx y hy => UInt64.not_lt.mp (hordered x hx y hy)

include hlabel in
/-- A column with levels of integers is sound if its parameters pass their check: then its range of
    integers is not empty, and the end of the range is where it should be. -/
theorem gives_enumIntegerType (p : EnumIntegerTypeParams) :
    Gives E (fun t => p.levelStartRange.Ordered → p.levelCountRange.OfLevels →
      Check.levelsOverflow p = false → (FieldType.enumInteger t).Sound)
      (c.enumIntegerType p labelName missingName) := by
  have hrange : Gives E (fun q => p.levelStartRange.Ordered → p.levelCountRange.OfLevels →
      Check.levelsOverflow p = false → q.1 < q.2)
      (Draw.interval p.levelStartRange p.levelCountRange) := by
    by_cases h : p.levelStartRange.Ordered ∧ p.levelCountRange.OfLevels ∧
        Check.levelsOverflow p = false
    · obtain ⟨hstart, hcount, hfit⟩ := h
      refine (gives_levelRange hstart hcount hfit).mono fun _ q hq _ _ _ => ?_
      obtain ⟨count, -, hn, hend⟩ := hq
      have hone : (1 : Int64).toInt = 1 := by decide
      have hpos := Int64.le_iff_toInt_le.mp (Int64.le_trans hcount.2 hn.1)
      rw [Int64.lt_iff_toInt_lt]
      omega
    · exact (gives_interval_any _ _).mono fun _ _ _ h₁ h₂ h₃ => absurd ⟨h₁, h₂, h₃⟩ h
  unfold enumIntegerType
  refine hrange.bind fun _ q hq => ?_
  obtain ⟨start, stop⟩ := q
  refine (c.gives_missingValues hmissing hE _ _).bind fun _ tokens _ => ?_
  refine (gives_chance _).bind fun _ unlabeled _ => ?_
  refine (c.gives_labelsOnto hE hlabel _ _ .nil).bind fun _ ls hls => ?_
  -- labels leave the values of the levels as they are: the integers of the range, then the tokens
  obtain ⟨hvalues, hlabels⟩ := hls
  rw [List.reverse_nil, List.map_nil, List.nil_append] at hvalues
  refine (c.gives_flag _ _).bind fun _ _ _ => (c.gives_flag _ _).bind fun _ _ _ => ?_
  refine (c.gives_flag _ _).bind fun _ _ _ => .pure fun h₁ h₂ h₃ => ⟨⟨?_, hlabels⟩, ?_⟩
  · -- the range of integers alone is not empty
    intro hnil
    have hnil : ls = [] := hnil
    rw [hnil] at hvalues
    have hints := (List.append_eq_nil_iff.mp hvalues.symm).1
    exact integersFrom_ne_nil (hq h₁ h₂ h₃) (List.map_eq_nil_iff.mp hints)
  · -- the levels that are texts are the tokens that were kept
    intro token htoken
    have htoken : LevelValue.text token ∈ ls.map (·.value) := htoken
    rw [hvalues, List.mem_append] at htoken
    rcases htoken with hint | htext
    · obtain ⟨i, -, hi⟩ := List.mem_map.mp hint
      cases hi
    · obtain ⟨u, hu, heq⟩ := List.mem_map.mp htext
      cases heq
      cases tokens with
      | none => cases hu
      | some ts => exact ⟨_, rfl, hu⟩

include hlabel in
/-- A column with levels of texts is sound if at least one of them is asked for; they are unlike
    each other in any case. -/
theorem gives_enumStringType (p : EnumStringTypeParams) :
    Gives E (fun t => p.levelCountRange.OfLevels → (FieldType.enumString t).Sound)
      (c.enumStringType p labelName missingName) := by
  unfold enumStringType
  refine (c.gives_distinctTexts hE hlabel).bind fun _ levels hlevels => ?_
  obtain ⟨hnodup, hlength⟩ := hlevels
  refine (c.gives_flag _ _).bind fun _ _ _ => (c.gives_flag _ _).bind fun _ _ _ => ?_
  refine (c.gives_flag _ _).bind fun _ _ _ => ?_
  refine (c.gives_missingValues hmissing hE _ _).bind fun _ _ _ => .pure fun hp => ?_
  refine ⟨⟨fun hnil => ?_, hnodup⟩, trivial⟩
  have hnil : levels = [] := hnil
  have hsize := toSize_levels hp
  have hle := hlength hsize.1
  rw [hnil, List.length_nil] at hle
  omega

end Types

/-! ## Columns -/

/-- A composed name is handed out as it is composed, and is not empty because there is an underscore
    in it.  The names of columns are unlike each other in the whole run because this is where they
    come from. -/
theorem carries_composedName {group : String} {fieldName : Draw String}
    (hE : E (.uniquenessExhausted .run c.attempts)) (hname : Gives E (fun _ => True) fieldName) :
    Carries E (fun name => nameKeys [name]) (fun name => name ≠ "")
      (c.composedName group fieldName) := by
  have hcompose : Gives E (fun name => name ≠ "")
      (do return group ++ "_" ++ (← fieldName) : Draw String) :=
    hname.bind fun _ x _ => .pure fun h => by
      have hlength := congrArg String.length h
      simp at hlength
  refine (c.meets_uniqueInRun hE (fun _ _ _ h => h) hcompose).mono ?_
  rintro _ name ⟨before, rfl, hne⟩
  exact ⟨List.sublist_append_right before _, hne⟩

/-- A meta group hands out the names of its columns one by one, in their order.  Its own name is
    handed out before them and is not carried on. -/
theorem carries_metaGroup {count : IntRange} {undefinedProb : Float}
    {groupName fieldName title description : Draw String}
    (hE : E (.uniquenessExhausted .run c.attempts)) (hgroup : Gives E (fun _ => True) groupName)
    (hname : Gives E (fun _ => True) fieldName) (htitle : Gives E (fun _ => True) title)
    (hdescription : Gives E (fun _ => True) description) :
    Carries E (fun ms : List FieldMeta => nameKeys (ms.map (·.name)))
      (fun ms => ∀ m ∈ ms, m.name ≠ "")
      (c.metaGroup count undefinedProb groupName fieldName title description) := by
  have hclaimed : Gives E (fun _ => True) (c.uniqueInRun textKey groupName) :=
    (c.meets_uniqueInRun hE (fun _ _ _ h => h) hgroup).mono fun _ _ _ => trivial
  refine Carries.after_gives hclaimed fun group _ => ?_
  refine Carries.after_gives (gives_size_any _) fun n _ => ?_
  have hmeta : Carries E (fun m : FieldMeta => nameKeys [m.name]) (fun m => m.name ≠ "") (do
      let name ← c.composedName group fieldName
      let title ← Draw.maybe (1.0 - undefinedProb) title
      let description ← Draw.maybe (1.0 - undefinedProb) description
      return { name, title, description }) := by
    refine (c.carries_composedName hE hname).bind fun old name hold => ?_
    refine (gives_maybe htitle).bind fun _ _ _ => (gives_maybe hdescription).bind fun _ _ _ => ?_
    exact .pure ⟨hold.1.trans (List.sublist_append_left old _), hold.2⟩
  -- the keys of several entries are those of the entries together
  refine (hmeta.times n).mono fun _ ms hms => ⟨?_, hms.2.1⟩
  have hkeys : nameKeys (ms.map (·.name)) = ms.flatMap fun m => nameKeys [m.name] := by
    rw [nameKeys, List.map_map, List.map_eq_flatMap]
    rfl
  show (nameKeys (ms.map (·.name))).Sublist _
  rw [hkeys]
  exact hms.1

/-- The columns drawn for some entries have these entries, in their order, and types as the draw of
    types gives them; `drawn` holds those before. -/
theorem gives_fieldsOnto {fieldType : Draw FieldType} {Q : FieldType → Prop}
    (htype : Gives E Q fieldType) : ∀ (metas : List FieldMeta) (drawn : List Field),
      Gives E (fun fs => fs.map Field.info = drawn.reverse.map Field.info ++ metas ∧
        ∀ f ∈ fs, f ∈ drawn ∨ Q f.type) (c.fieldsOnto fieldType drawn metas)
  | [], drawn => .pure ⟨(List.append_nil _).symm, fun f hf => .inl (List.mem_reverse.mp hf)⟩
  | info :: rest, drawn => by
    refine htype.bind fun _ t ht => ?_
    refine (gives_fieldsOnto htype rest (⟨info, t⟩ :: drawn)).mono fun _ fs hfs => ⟨?_, ?_⟩
    · rw [hfs.1]
      simp
    · intro f hf
      rcases hfs.2 f hf with hf | hf
      · rcases List.mem_cons.mp hf with rfl | hf
        · exact .inr ht
        · exact .inl hf
      · exact .inr hf

/-- A group of columns carries the names that its meta group handed out: a type is added to each,
    and none is dropped. -/
theorem carries_fieldGroup {groupMeta : Draw (List FieldMeta)} {fieldType : Draw FieldType}
    {P : FieldMeta → Prop} {Q : FieldType → Prop}
    (hmeta : Carries E (fun ms => nameKeys (ms.map (·.name))) (fun ms => ∀ m ∈ ms, P m) groupMeta)
    (htype : Gives E Q fieldType) :
    Carries E (fun fs => nameKeys (fs.map Field.name)) (fun fs => ∀ f ∈ fs, P f.info ∧ Q f.type)
      (c.fieldGroup groupMeta fieldType) := by
  refine hmeta.bind fun old ms hms => (c.gives_fieldsOnto htype ms []).mono fun _ fs hfs => ?_
  have hinfos : fs.map Field.info = ms := hfs.1
  constructor
  · have hnames : fs.map Field.name = ms.map (·.name) := by
      rw [← hinfos, List.map_map]
      rfl
    show (nameKeys (fs.map Field.name)).Sublist _
    rw [hnames]
    exact hms.1.trans (List.sublist_append_left old _)
  · intro f hf
    refine ⟨hms.2 f.info (hinfos ▸ List.mem_map_of_mem hf), ?_⟩
    exact (hfs.2 f hf).elim (fun h => absurd h List.not_mem_nil) id

/-! ## Tables and packages -/

/-- The names of the columns were handed out in one stretch of the run, so they are distinct. -/
theorem carries_tableSchema {fields : Draw (List Field)}
    {missingValues : Draw (Option (List String))} {rows : SizeSpec} {P : List Field → Prop}
    (hfields : Carries E (fun fs => nameKeys (fs.map Field.name)) P fields)
    (hmissing : Gives E (fun _ => True) missingValues) :
    Carries E (fun s => nameKeys s.fieldNames) (fun s => s.fieldNames.Nodup ∧ P s.fields)
      (c.tableSchema fields missingValues rows) := by
  -- `nodup` is where the ledger comes in: keys of one stretch are unlike each other
  refine hfields.nodup.bind fun old fs hfs => hmissing.bind fun _ _ _ => ?_
  refine (gives_size_any rows).bind fun _ _ _ => .pure ⟨?_, ?_, hfs.2.2⟩
  · exact hfs.2.1.trans (List.sublist_append_left old _)
  · exact nodup_of_nameKeys (hfs.2.1.nodup hfs.1)

/-- A table carries the names of its schema, and is sound if that is.  Its rows hand out nothing,
    and neither does its description; its own name is not one of a column. -/
theorem carries_tableResource {name : Draw String} {description : Draw (Option String)}
    {schema : Draw TableSchema} {P : TableSchema → Prop}
    (hname : Gives E (fun _ => True) name) (hdescription : Gives E (fun _ => True) description)
    (hschema : Carries E (fun s => nameKeys s.fieldNames) P schema)
    (hE : ∀ s, P s → ∀ f ∈ s.fields, ¬ f.type.Valid → E (.package .noLevelToDraw)) :
    Carries E (fun r => nameKeys r.schema.fieldNames)
      (fun r => P r.schema ∧ (r.schema.Sound → r.Sound))
      (c.tableResource name description schema) := by
  refine hschema.bind fun old s hs => (c.gives_rows s (hE s hs.2)).bind fun _ rows hrows => ?_
  refine hname.bind fun _ _ _ => hdescription.bind fun _ _ _ => .pure ⟨?_, hs.2, fun hsound => ?_⟩
  · exact hs.1.trans (List.sublist_append_left old _)
  · exact ⟨hsound, (hrows hsound).1, (hrows hsound).2⟩

/-- A package carries the names of all its tables, one table after the other, so no two columns of
    it share a name even if they are in different tables. -/
theorem carries_package {name : Draw String} {description : Draw (Option String)}
    {count : SizeSpec} {resource : Draw TableResource} {P : TableResource → Prop}
    (hname : Gives E (fun _ => True) name) (hdescription : Gives E (fun _ => True) description)
    (hresource : Carries E (fun r => nameKeys r.schema.fieldNames) P resource) :
    Carries E (fun p => nameKeys (p.resources.flatMap (·.schema.fieldNames)))
      (fun p => ∀ r ∈ p.resources, P r) (c.package name description count resource) := by
  refine Carries.after_gives hname fun _ _ => ?_
  refine Carries.after_gives hdescription fun _ _ => ?_
  refine Carries.after_gives (gives_size_any count) fun n _ => ?_
  refine (hresource.times n).bind fun old rs hrs => .pure ⟨?_, hrs.2.1⟩
  show (nameKeys (rs.flatMap (·.schema.fieldNames))).Sublist _
  rw [nameKeys, List.map_flatMap, List.append_nil]
  exact hrs.1

end Context

end SyntheticTables
