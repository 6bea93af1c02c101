/-
  What a draw touches.

  Every draw takes from the stream.  A footprint says what else of the state a draw may touch: the
  ledger with the record, and which places of the memory.  `Confined f m` says that `m` keeps to it both
  ways: what lies outside stays as it was, and from states that agree on it, the draw comes to the
  same result and leaves states that agree again.  Confined it, the memory of a place only grows.

  The rules follow the ways draws are put together, so a tree is one induction over its nodes
  (`Node.draw_confined`): at its place it touches the places below alone, and the ledger only if there
  is a `unique` node or a meta group in it.
-/
import SyntheticTables.Proofs.Draw.Outcome
import Std.Data.TreeMap.Lemmas
import Std.Data.TreeSet.Lemmas

namespace SyntheticTables

/-! ## Footprints -/

/-- What of the state may be touched besides the stream: the ledger as a whole, and some places of
    the memory. -/
structure Footprint where
  /-- The ledger, and the record of what was handed out. -/
  ledger : Prop
  memory : Place → Prop

namespace Footprint

/-- The whole state. -/
def whole : Footprint := ⟨True, fun _ => True⟩

/-- The stream and nothing else. -/
def streamOnly : Footprint := ⟨False, fun _ => False⟩

/-- A place and all places below it belong to the footprint. -/
def Covers (f : Footprint) (place : Place) : Prop := ∀ q, place <:+ q → f.memory q

variable {f : Footprint} {place : Place}

/-- A covered place belongs to the footprint itself. -/
theorem Covers.self (h : f.Covers place) : f.memory place := h place (List.suffix_refl place)

/-- The children of a covered place are covered; places are written with the last step first, so
    those below end in it. -/
theorem Covers.child (h : f.Covers place) (i : Nat) : f.Covers (i :: place) :=
  fun q hq => h q ((List.suffix_cons i place).trans hq)

/-- The whole state covers every place, so trees can be looked at where their place does not
    matter. -/
theorem covers_whole (place : Place) : whole.Covers place := fun _ _ => trivial

end Footprint

namespace State

/-- What is remembered at a place after something was entered at another one, or at the same. -/
theorem seenAt_insert (s : State) (place q : Place) (seen : Std.TreeSet String) :
    ({ s with memory := s.memory.insert place seen } : State).seenAt q
      = if place = q then seen else s.seenAt q := by
  unfold seenAt
  rw [Std.TreeMap.getD_insert]
  simp only [Std.LawfulEqCmp.compare_eq_iff_eq]

/-- Two states that a footprint cannot tell apart. -/
structure Agree (f : Footprint) (s t : State) : Prop where
  stream : s.stream = t.stream
  ledger : f.ledger → s.ledger = t.ledger
  issued : f.ledger → s.issued = t.issued
  memory : ∀ place, f.memory place → s.seenAt place = t.seenAt place

/-- What lies outside the footprint is as it was, and nothing was forgotten. -/
structure Keeps (f : Footprint) (s s' : State) : Prop where
  ledger : ¬ f.ledger → s'.ledger = s.ledger
  issued : ¬ f.ledger → s'.issued = s.issued
  memory : ∀ place, ¬ f.memory place → s'.seenAt place = s.seenAt place
  grows : ∀ place, ∀ key ∈ s.seenAt place, key ∈ s'.seenAt place

namespace Keeps

variable {f : Footprint} {s s' s'' : State}

/-- Whatever leaves the ledger, the record and the memory alone. -/
theorem of_eq (hledger : s'.ledger = s.ledger) (hissued : s'.issued = s.issued)
    (hmemory : s'.memory = s.memory) : s.Keeps f s' where
  ledger _ := hledger
  issued _ := hissued
  memory place _ := congrArg (·.getD place ∅) hmemory
  grows place key hkey := by
    rw [seenAt, hmemory]
    exact hkey

/-- What two stretches both leave alone, they leave alone together; and what was not forgotten on
    the way is not forgotten. -/
theorem trans (h : s.Keeps f s') (h' : s'.Keeps f s'') : s.Keeps f s'' where
  ledger hf := (h'.ledger hf).trans (h.ledger hf)
  issued hf := (h'.issued hf).trans (h.issued hf)
  memory place hf := (h'.memory place hf).trans (h.memory place hf)
  grows place key hkey := h'.grows place key (h.grows place key hkey)

end Keeps

end State

namespace Draw

variable {α β : Type} {f : Footprint}

/-- The draw touches nothing but the stream and what belongs to the footprint. -/
structure Confined (f : Footprint) (m : Draw α) : Prop where
  keeps : ∀ s : State, s.Keeps f (m s).2
  agrees : ∀ s t, State.Agree f s t → (m s).1 = (m t).1 ∧ State.Agree f (m s).2 (m t).2

namespace Confined

/-! ## Steps -/

/-- A result that is known already touches nothing, not even the stream. -/
theorem ofExcept (r : Except GenError α) : Confined f (Draw.ofExcept r) where
  keeps _ := .of_eq rfl rfl rfl
  agrees _ _ h := ⟨rfl, h⟩

/-- Neither does a value that is known already. -/
theorem pure (a : α) : Confined f (pure a : Draw α) := ofExcept (.ok a)

/-- Neither does a failure. -/
theorem throw (e : GenError) : Confined f (throw e : Draw α) := ofExcept (.error e)

/-- Whatever is taken comes from the stream, on which states agree in any case. -/
theorem sample (g : Stream → α × Stream) : Confined f (Draw.sample g) where
  keeps _ := .of_eq rfl rfl rfl
  agrees s t h := by
    unfold Draw.sample
    rw [h.stream]
    exact ⟨rfl, { h with stream := rfl }⟩

/-- Entering a key into the ledger touches it, and what comes of it depends on it alone: both the
    answer and the new ledger are the same wherever the ledger is the same. -/
theorem claim (hf : f.ledger) (key : String) : Confined f (Draw.claim key) where
  keeps s := by
    unfold Draw.claim
    split
    · exact .of_eq rfl rfl rfl
    · exact ⟨absurd hf, absurd hf, fun _ _ => rfl, fun _ _ hkey => hkey⟩
  agrees s t h := by
    unfold Draw.claim
    rw [h.ledger hf]
    split
    · exact ⟨rfl, h⟩
    · exact ⟨rfl, { h with ledger := fun _ => rfl }⟩

/-- So does entering a key into the record, which belongs to the footprint together with the
    ledger. -/
theorem issue (hf : f.ledger) (key : String) : Confined f (Draw.issue key) where
  keeps _ := ⟨absurd hf, absurd hf, fun _ _ => rfl, fun _ _ hkey => hkey⟩
  agrees _ _ h := ⟨rfl, { h with issued := fun _ => congrArg (key :: ·) (h.issued hf) }⟩

/-- Entering a key at a place touches the memory there and nowhere else, and only adds to it.  The
    answer depends on what that one place has seen. -/
theorem remember {place : Place} (hf : f.memory place) (key : String) :
    Confined f (Draw.remember place key) where
  keeps s := by
    unfold Draw.remember
    split
    · exact .of_eq rfl rfl rfl
    · refine ⟨fun _ => rfl, fun _ => rfl, fun q hq => ?_, fun q k hk => ?_⟩
      · have hne : place ≠ q := fun heq => hq (heq ▸ hf)
        rw [State.seenAt_insert, if_neg hne]
      · rw [State.seenAt_insert]
        split
        · rename_i heq
          subst heq
          exact Std.TreeSet.mem_insert.mpr (.inr hk)
        · exact hk
  agrees s t h := by
    unfold Draw.remember
    rw [h.memory place hf]
    split
    · exact ⟨rfl, h⟩
    · refine ⟨rfl, { h with memory := fun q hq => ?_ }⟩
      rw [State.seenAt_insert, State.seenAt_insert, h.memory q hq]

/-! ## One draw after the other -/

/-- One draw after the other: the second begins with states that agree as those before the first
    did, and because the first gave the same result in both it is the same draw in both. -/
theorem bind {m : Draw α} {g : α → Draw β} (hm : Confined f m) (hg : ∀ a, Confined f (g a)) :
    Confined f (m >>= g) where
  keeps s := by
    have hkept := hm.keeps s
    rw [bind_apply]
    revert hkept
    rcases m s with ⟨e | a, s'⟩
    · exact id
    · exact fun hkept => hkept.trans ((hg a).keeps s')
  agrees s t h := by
    obtain ⟨hresult, hafter⟩ := hm.agrees s t h
    rw [bind_apply, bind_apply]
    revert hresult hafter
    -- with the same result in both states, the second draw is the same one in both
    rcases m s with ⟨r, s'⟩
    rcases m t with ⟨r', t'⟩
    rintro rfl hafter
    cases r with
    | error e => exact ⟨rfl, hafter⟩
    | ok a => exact (hg a).agrees s' t' hafter

/-- What is made of a value touches nothing. -/
theorem map {m : Draw α} (hm : Confined f m) (g : α → β) : Confined f (g <$> m) := by
  rw [map_eq_pure_bind]
  exact hm.bind fun a => pure (g a)

/-- Neither does taking the form that a slot needs out of it. -/
theorem as {m : Draw Value} (hm : Confined f m) (form : Value → Except GenError α) :
    Confined f (m.as form) :=
  hm.bind fun v => ofExcept (form v)

/-- A value that may be left out: the toss is taken from the stream, and decides the same way in
    both states. -/
theorem maybe {m : Draw α} (hm : Confined f m) (p : Float) : Confined f (Draw.maybe p m) := by
  refine (sample _).bind fun hit => ?_
  cases hit with
  | true => exact hm.bind fun a => pure (some a)
  | false => exact pure none

/-! ## Repetition -/

/-- A search touches what its draws and their acceptance touch, however many of them it takes. -/
theorem retry {m : Draw α} (hm : Confined f m) {accept : α → Draw (Option β)}
    (haccept : ∀ a, Confined f (accept a)) (exhausted : GenError) :
    ∀ n, Confined f (Draw.retry exhausted accept m n)
  | 0 => throw exhausted
  | n + 1 => by
    refine hm.bind fun a => (haccept a).bind fun accepted => ?_
    cases accepted with
    | some b => exact pure b
    | none => exact retry hm haccept exhausted n

/-- Several values, by induction on how many are left. -/
theorem timesOnto {m : Draw α} (hm : Confined f m) : ∀ (n : Nat) (drawn : List α),
    Confined f (Draw.timesOnto m drawn n)
  | 0, drawn => pure drawn.reverse
  | n + 1, drawn => hm.bind fun a => timesOnto hm n (a :: drawn)

/-- Several values touch what one of them touches. -/
theorem times {m : Draw α} (hm : Confined f m) (n : Nat) : Confined f (Draw.times n m) :=
  hm.timesOnto n []

end Confined

/-! ## Simple draws -/

/-- Simple draws take from the stream and touch nothing, so they are confined to any footprint. -/
theorem chance_confined (p : Float) : Confined f (chance p) := .sample _

/-- An integer, whichever way round its bounds are. -/
theorem int_confined (a b : Int64) : Confined f (int a b) := by
  unfold int
  split <;> exact .sample _

/-- A float, whichever way round its bounds are. -/
theorem float_confined (a b : Float) : Confined f (float a b) := by
  unfold float
  split <;> exact .sample _

/-- A size, whether or not there is something to draw. -/
theorem size_confined (s : SizeSpec) : Confined f (size s) := by
  unfold size
  split
  · exact .pure _
  · split <;> exact .map (.sample _) _

/-- An interval, as two integers one after the other. -/
theorem interval_confined (start length : IntRange) : Confined f (interval start length) :=
  (int_confined _ _).bind fun _ => (int_confined _ _).bind fun _ => .pure _

end Draw

namespace Context

open Draw

variable {f : Footprint} (c : Context)

/-- A word: the vocabulary is part of the context, not of the state. -/
theorem word_confined : Confined f c.word := (Confined.sample _).bind fun _ => .pure _

/-- A name or a sentence, of any number of words. -/
theorem words_confined (joiner : Joiner) (count : Nat) : Confined f (c.words joiner count) :=
  (c.word_confined.times count).bind fun _ => .pure _

/-- A token in any of the styles. -/
theorem missingName_confined (style : MissingStyle) : Confined f (c.missingName style) := by
  cases style with
  | spss => exact (Confined.sample _).bind fun _ => .pure _
  | stata => exact (Confined.sample _).bind fun _ => .pure _
  | underscore =>
    exact (Confined.sample _).bind fun _ => (c.words_confined _ _).bind fun _ => .pure _

/-! ## Searches -/

/-- A search in the run touches the ledger, and what its draws touch.  It is the only search that
    does. -/
theorem uniqueInRun_confined {α : Type} {m : Draw α} (hm : Confined f m) (hf : f.ledger)
    (key : α → String) : Confined f (c.uniqueInRun key m) := by
  have haccept : ∀ a, Confined f (do return if ← Draw.claim (key a) then some a else none) :=
    fun a => (Confined.claim hf (key a)).bind fun _ => .pure _
  exact (hm.retry haccept _ _).bind fun a => (Confined.issue hf (key a)).bind fun _ => .pure a

/-- A search at a place touches the memory of that place, and what its draws touch. -/
theorem uniqueAt_confined {m : Draw Value} (hm : Confined f m) {place : Place} (hf : f.memory place) :
    Confined f (c.uniqueAt place m) :=
  hm.retry (fun v => (Confined.remember hf v.key).bind fun _ => .pure _) _ _

/-- A draw whose values may have to be new at their place. -/
theorem item_confined {m : Draw Value} (hm : Confined f m) {place : Place} (hf : f.memory place)
    (distinct : Bool) : Confined f (if distinct then c.uniqueAt place m else m) := by
  cases distinct with
  | true => exact c.uniqueAt_confined hm hf
  | false => exact hm

section Texts

variable {m : Draw String} (hm : Confined f m)

include hm

/-- A search among texts carries the texts along, so it touches what its draws touch and nothing
    else. -/
theorem newText_confined (seen : Std.TreeSet String) : Confined f (c.newText seen m) :=
  hm.retry (fun _ => .pure _) _ _

/-- So do several of them, each unlike those before. -/
theorem newTextsOnto_confined : ∀ (n : Nat) (seen : Std.TreeSet String) (drawn : List String),
    Confined f (c.newTextsOnto m seen drawn n)
  | 0, _, drawn => .pure drawn.reverse
  | n + 1, seen, drawn =>
    (c.newText_confined hm seen).bind fun p => newTextsOnto_confined n p.2 (p.1 :: drawn)

/-- What is new in a list is decided within the draw: between two of them, nothing is remembered. -/
theorem distinctTexts_confined (count : SizeSpec) : Confined f (c.distinctTexts count m) :=
  (size_confined count).bind fun n => c.newTextsOnto_confined hm n ∅ []

/-- So do labels, whether there are any or not. -/
theorem labelsOnto_confined (labeled : Bool) : ∀ (values : List LevelValue)
    (seen : Std.TreeSet String) (drawn : List Level),
      Confined f (c.labelsOnto m labeled seen drawn values)
  | [], _, drawn => .pure drawn.reverse
  | value :: rest, seen, drawn => by
    unfold labelsOnto
    cases labeled with
    | true => exact (c.newText_confined hm seen).bind fun p => labelsOnto_confined true rest p.2 _
    | false => exact labelsOnto_confined false rest seen _

end Texts

/-! ## The parts of a package -/

/-- A flag, which may be left out. -/
theorem flag_confined (prob undefinedProb : Float) : Confined f (c.flag prob undefinedProb) :=
  (chance_confined prob).maybe _

section Types

variable {labelName missingName : Draw String} (hlabel : Confined f labelName)
  (hmissing : Confined f missingName)

include hmissing

/-- Tokens for missing values touch what the draw of one touches. -/
theorem missingValues_confined (max : UInt64) (undefinedProb : Float) :
    Confined f (c.missingValues missingName max undefinedProb) :=
  (c.distinctTexts_confined hmissing _).maybe _

/-- What follows the bounds of a column type: two flags and the missing values. -/
theorem constraints_confined {α : Type} (requiredProb uniqueProb undefinedProb : Float)
    (missingMax : UInt64) (build : Option Bool → Option Bool → Option (List String) → α) :
    Confined f (do
      let required ← c.flag requiredProb undefinedProb
      let unique ← c.flag uniqueProb undefinedProb
      let missingValues ← c.missingValues missingName missingMax undefinedProb
      return build required unique missingValues) :=
  (c.flag_confined _ _).bind fun _ => (c.flag_confined _ _).bind fun _ =>
    (c.missingValues_confined hmissing _ _).bind fun _ => .pure _

/-- The type of a column of integers: two bounds, then what all columns have. -/
theorem integerType_confined (p : IntegerTypeParams) : Confined f (c.integerType p missingName) :=
  ((int_confined _ _).maybe _).bind fun _ => ((int_confined _ _).maybe _).bind fun _ =>
    c.constraints_confined hmissing _ _ _ _ _

/-- The type of a column of floats, likewise. -/
theorem numberType_confined (p : NumberTypeParams) : Confined f (c.numberType p missingName) :=
  ((float_confined _ _).maybe _).bind fun _ => ((float_confined _ _).maybe _).bind fun _ =>
    c.constraints_confined hmissing _ _ _ _ _

/-- The type of a column of texts, with lengths in the place of bounds. -/
theorem stringType_confined (p : StringTypeParams) : Confined f (c.stringType p missingName) := by
  have hlength : ∀ r, Confined f (c.length r) := fun r => (int_confined _ _).bind fun _ => .pure _
  exact ((hlength _).maybe _).bind fun _ => ((hlength _).maybe _).bind fun _ =>
    c.constraints_confined hmissing _ _ _ _ _

include hlabel

/-- The type of a column with levels of integers touches what its labels and its tokens touch. -/
theorem enumIntegerType_confined (p : EnumIntegerTypeParams) :
    Confined f (c.enumIntegerType p labelName missingName) := by
  refine (interval_confined _ _).bind fun range => ?_
  refine (c.missingValues_confined hmissing _ _).bind fun tokens => ?_
  refine (chance_confined _).bind fun unlabeled => ?_
  refine (c.labelsOnto_confined hlabel _ _ _ _).bind fun levels => ?_
  exact (c.flag_confined _ _).bind fun _ => (c.flag_confined _ _).bind fun _ =>
    (c.flag_confined _ _).bind fun _ => .pure _

/-- The type of a column with levels of texts, likewise. -/
theorem enumStringType_confined (p : EnumStringTypeParams) :
    Confined f (c.enumStringType p labelName missingName) := by
  refine (c.distinctTexts_confined hlabel _).bind fun levels => ?_
  refine (c.flag_confined _ _).bind fun _ => (c.flag_confined _ _).bind fun _ => ?_
  refine (c.flag_confined _ _).bind fun _ => ?_
  exact (c.missingValues_confined hmissing _ _).bind fun _ => .pure _

end Types

/-- A meta group claims its own name and those of its columns, so the ledger has to belong to the
    footprint. -/
theorem metaGroup_confined {group name title description : Draw String} (hf : f.ledger)
    (hgroup : Confined f group) (hname : Confined f name) (htitle : Confined f title)
    (hdescription : Confined f description) (count : IntRange) (undefinedProb : Float) :
    Confined f (c.metaGroup count undefinedProb group name title description) := by
  refine (c.uniqueInRun_confined hgroup hf textKey).bind fun prefixed => ?_
  refine (size_confined _).bind fun n => .times ?_ n
  have hcomposed : Confined f (c.composedName prefixed name) :=
    c.uniqueInRun_confined (hname.bind fun _ => .pure _) hf textKey
  exact hcomposed.bind fun _ => (htitle.maybe _).bind fun _ =>
    (hdescription.maybe _).bind fun _ => .pure _

/-- Columns touch what the draw of a type touches. -/
theorem fieldsOnto_confined {fieldType : Draw FieldType} (htype : Confined f fieldType) :
    ∀ (metas : List FieldMeta) (drawn : List Field), Confined f (c.fieldsOnto fieldType drawn metas)
  | [], drawn => .pure drawn.reverse
  | info :: rest, drawn => htype.bind fun t => fieldsOnto_confined htype rest (⟨info, t⟩ :: drawn)

/-- A group of columns: the entries first, then a type for each. -/
theorem fieldGroup_confined {groupMeta : Draw (List FieldMeta)} {fieldType : Draw FieldType}
    (hmeta : Confined f groupMeta) (htype : Confined f fieldType) :
    Confined f (c.fieldGroup groupMeta fieldType) :=
  hmeta.bind fun metas => c.fieldsOnto_confined htype metas []

/-! ## Cells and rows -/

/-- Filling a text up, by induction along its loop: each word is a draw from the stream. -/
theorem fillText_confined (minLength : Nat) (text : String) (length : Nat) :
    Confined f (c.fillText minLength text length) := by
  fun_induction fillText c minLength text length with
  | case1 text length hshort ih => exact c.word_confined.bind ih
  | case2 text length hlong => exact .pure _

/-- A cell of text: its first word, those that fill it up, and the cut, for which nothing is
    drawn. -/
theorem textCell_confined (t : StringType) : Confined f (c.textCell t) := by
  refine c.word_confined.bind fun first => (c.fillText_confined _ _ _).bind fun filled => ?_
  obtain ⟨text, length⟩ := filled
  cases t.maxLength with
  | none => exact .pure _
  | some maxLength =>
    show Confined f (if maxLength.toNat < length then _ else _)
    split <;> exact .pure _

/-- One of some levels; with no level it is a failure, which touches nothing either. -/
theorem level_confined {α : Type} (levels : List α) : Confined f (c.level levels) := by
  cases levels with
  | nil => exact .throw _
  | cons first rest => exact (Confined.sample _).bind fun _ => .pure _

/-- A cell of any kind takes from the stream alone, so the rows of a table leave all that is unique
    as it is. -/
theorem cell_confined (t : FieldType) : Confined f (c.cell t) := by
  cases t with
  | integer t => exact (int_confined _ _).bind fun _ => .pure _
  | number t => exact (float_confined _ _).bind fun _ => .pure _
  | enumInteger t => exact (c.level_confined t.levels).bind fun _ => .pure _
  | enumString t => exact c.level_confined t.levels
  | string t => exact c.textCell_confined t

/-- A row, cell by cell. -/
theorem rowOnto_confined : ∀ (fields : List Field) (row : Row), Confined f (c.rowOnto row fields)
  | [], row => .pure row
  | field :: rest, _ => (c.cell_confined field.type).bind fun _ => rowOnto_confined rest _

/-- The rows of a table, one by one. -/
theorem rows_confined (schema : TableSchema) : Confined f (c.rows schema) :=
  (c.rowOnto_confined schema.fields Row.empty).times _

/-! ## Tables and packages -/

/-- The schema of a table touches what its columns and its tokens touch. -/
theorem tableSchema_confined {fields : Draw (List Field)}
    {missingValues : Draw (Option (List String))} (hfields : Confined f fields)
    (hmissing : Confined f missingValues) (rows : SizeSpec) :
    Confined f (c.tableSchema fields missingValues rows) :=
  hfields.bind fun _ => hmissing.bind fun _ => (size_confined rows).bind fun _ => .pure _

/-- A table touches what its schema, its name and its description touch. -/
theorem tableResource_confined {name : Draw String} {description : Draw (Option String)}
    {schema : Draw TableSchema} (hname : Confined f name) (hdescription : Confined f description)
    (hschema : Confined f schema) : Confined f (c.tableResource name description schema) :=
  hschema.bind fun s => (c.rows_confined s).bind fun _ => hname.bind fun _ =>
    hdescription.bind fun _ => .pure _

/-- A package touches what its names and its tables touch. -/
theorem package_confined {name : Draw String} {description : Draw (Option String)}
    {resource : Draw TableResource} (hname : Confined f name) (hdescription : Confined f description)
    (hresource : Confined f resource) (count : SizeSpec) :
    Confined f (c.package name description count resource) :=
  hname.bind fun _ => hdescription.bind fun _ => (size_confined count).bind fun n =>
    (hresource.times n).bind fun _ => .pure _

end Context

/-! ## Trees -/

mutual

/-- Nothing in the tree claims a key: there is no `unique` node and no meta group. -/
def Node.Local : Node → Prop
  | .word | .words .. | .integer .. | .number .. | .boolean _ | .interval .. | .missingValueName _ =>
    True
  | .maybe _ child => child.Local
  | .choice children => Node.AllLocal children
  | .seq children _ => Node.AllLocal children
  | .batch child _ _ => child.Local
  | .unique _ => False
  | .integerFieldType _ missingName => missingName.Local
  | .numberFieldType _ missingName => missingName.Local
  | .stringFieldType _ missingName => missingName.Local
  | .enumIntegerFieldType _ labelName missingName => labelName.Local ∧ missingName.Local
  | .enumStringFieldType _ labelName missingName => labelName.Local ∧ missingName.Local
  | .metaGroup .. => False
  | .fieldGroup groupMeta fieldType => groupMeta.Local ∧ fieldType.Local
  | .likertFieldGroup groupMeta fieldType => groupMeta.Local ∧ fieldType.Local
  | .tableSchema fields _ missingName _ _ => FieldGroups.Local fields ∧ missingName.Local
  | .tableResource name description schema => name.Local ∧ description.Local ∧ schema.Local
  | .package name description resource _ => name.Local ∧ description.Local ∧ resource.Local
  termination_by structural n => n

/-- Nothing in any of these trees claims a key. -/
def Node.AllLocal : List Node → Prop
  | [] => True
  | n :: rest => n.Local ∧ Node.AllLocal rest
  termination_by structural ns => ns

/-- Nothing in any of the field groups claims a key. -/
def FieldGroups.Local : FieldGroups → Prop
  | .one node => node.Local
  | .many nodes => Node.AllLocal nodes
  termination_by structural g => g

end

section Trees

open Draw Context

variable {f : Footprint} {c : Context} {missing : Draw String}

mutual

/-- A tree touches what lies below its place, what the tokens for missing values touch, and the ledger
    only if something in it claims keys. -/
theorem Node.draw_confined (hmissing : Confined f missing) : ∀ (n : Node) (place : Place),
    f.Covers place → (¬ f.ledger → n.Local) → Confined f (n.draw c missing place)
  | .word, _, _, _ => by
    -- a leaf takes from the stream and touches nothing
    rw [Node.draw]
    exact c.word_confined.map _
  | .words joiner count, _, _, _ => by
    rw [Node.draw]
    exact (size_confined count).bind fun n => (c.words_confined joiner n).map _
  | .integer min max, _, _, _ => by
    rw [Node.draw]
    exact (int_confined min max).map _
  | .number min max, _, _, _ => by
    rw [Node.draw]
    exact (float_confined min max).map _
  | .boolean prob, _, _, _ => by
    rw [Node.draw]
    exact (chance_confined prob).map _
  | .interval start length, _, _, _ => by
    rw [Node.draw]
    exact (interval_confined start length).bind fun _ => .pure _
  | .missingValueName (some style), _, _, _ => by
    rw [Node.draw]
    exact (c.missingName_confined style).map _
  | .missingValueName none, _, _, _ => by
    rw [Node.draw]
    exact hmissing.map _
  | .maybe prob child, place, hplace, hlocal => by
    simp only [Node.Local] at hlocal
    rw [Node.draw]
    exact ((Node.draw_confined hmissing child _ (hplace.child 0) hlocal).maybe _).map _
  | .choice children, place, hplace, hlocal => by
    simp only [Node.Local] at hlocal
    rw [Node.draw]
    split
    · exact (Confined.sample _).bind fun chosen =>
        Node.drawNth_confined hmissing children place hplace hlocal 0 chosen
    · exact .throw _
  | .seq children distinct, place, hplace, hlocal => by
    simp only [Node.Local] at hlocal
    rw [Node.draw]
    have hvalues := (Node.drawEach_confined hmissing children place hplace hlocal distinct 0).map
      Value.seq
    split
    · exact (Confined.throw _).bind fun _ => hvalues
    · exact hvalues
  | .batch child count distinct, place, hplace, hlocal => by
    simp only [Node.Local] at hlocal
    rw [Node.draw]
    refine (size_confined count).bind fun n => ?_
    have hchild := Node.draw_confined hmissing child _ (hplace.child 0) hlocal
    exact ((c.item_confined hchild (hplace.child 0).self distinct).times n).map _
  | .unique child, place, hplace, hlocal => by
    simp only [Node.Local] at hlocal
    rw [Node.draw]
    have hledger : f.ledger := Classical.not_not.mp hlocal
    have hchild := Node.draw_confined hmissing child _ (hplace.child 0) (absurd hledger)
    exact c.uniqueInRun_confined hchild hledger Value.key
  | .integerFieldType p missingName, place, hplace, hlocal => by
    simp only [Node.Local] at hlocal
    rw [Node.draw]
    have hname := (Node.draw_confined hmissing missingName _ (hplace.child 0) hlocal).as Value.toText
    exact (c.integerType_confined hname p).bind fun _ => .pure _
  | .numberFieldType p missingName, place, hplace, hlocal => by
    simp only [Node.Local] at hlocal
    rw [Node.draw]
    have hname := (Node.draw_confined hmissing missingName _ (hplace.child 0) hlocal).as Value.toText
    exact (c.numberType_confined hname p).bind fun _ => .pure _
  | .stringFieldType p missingName, place, hplace, hlocal => by
    simp only [Node.Local] at hlocal
    rw [Node.draw]
    have hname := (Node.draw_confined hmissing missingName _ (hplace.child 0) hlocal).as Value.toText
    exact (c.stringType_confined hname p).bind fun _ => .pure _
  | .enumIntegerFieldType p labelName missingName, place, hplace, hlocal => by
    simp only [Node.Local, imp_and] at hlocal
    rw [Node.draw]
    have hlabel := (Node.draw_confined hmissing labelName _ (hplace.child 0) hlocal.1).as Value.toText
    have hname := (Node.draw_confined hmissing missingName _ (hplace.child 1) hlocal.2).as Value.toText
    exact (c.enumIntegerType_confined hlabel hname p).bind fun _ => .pure _
  | .enumStringFieldType p labelName missingName, place, hplace, hlocal => by
    simp only [Node.Local, imp_and] at hlocal
    rw [Node.draw]
    have hlabel := (Node.draw_confined hmissing labelName _ (hplace.child 0) hlocal.1).as Value.toText
    have hname := (Node.draw_confined hmissing missingName _ (hplace.child 1) hlocal.2).as Value.toText
    exact (c.enumStringType_confined hlabel hname p).bind fun _ => .pure _
  | .metaGroup groupName count fieldName title description undefinedProb, place, hplace, hlocal => by
    simp only [Node.Local] at hlocal
    rw [Node.draw]
    have hledger : f.ledger := Classical.not_not.mp hlocal
    have hgroup := Node.draw_confined hmissing groupName _ (hplace.child 0) (absurd hledger)
    have hname := Node.draw_confined hmissing fieldName _ (hplace.child 1) (absurd hledger)
    have htitle := Node.draw_confined hmissing title _ (hplace.child 2) (absurd hledger)
    have hdescription := Node.draw_confined hmissing description _ (hplace.child 3) (absurd hledger)
    exact (c.metaGroup_confined hledger (hgroup.as _) (hname.as _) (htitle.as _) (hdescription.as _)
      count undefinedProb).bind fun _ => .pure _
  | .fieldGroup groupMeta fieldType, place, hplace, hlocal
  | .likertFieldGroup groupMeta fieldType, place, hplace, hlocal => by
    simp only [Node.Local, imp_and] at hlocal
    rw [Node.draw]
    have hmeta := Node.draw_confined hmissing groupMeta _ (hplace.child 0) hlocal.1
    have htype := Node.draw_confined hmissing fieldType _ (hplace.child 1) hlocal.2
    exact (c.fieldGroup_confined (hmeta.as _) (htype.as _)).bind fun _ => .pure _
  | .tableSchema fields rows missingName missingMax undefinedProb, place, hplace, hlocal => by
    simp only [Node.Local, imp_and] at hlocal
    rw [Node.draw]
    have hfields := FieldGroups.draw_confined hmissing fields _ (hplace.child 0) hlocal.1
    have hname := Node.draw_confined hmissing missingName _ (hplace.child 1) hlocal.2
    have hvalues := c.missingValues_confined (hname.as Value.toText) missingMax undefinedProb
    exact (c.tableSchema_confined hfields hvalues rows).map _
  | .tableResource name description schema, place, hplace, hlocal => by
    simp only [Node.Local, imp_and] at hlocal
    rw [Node.draw]
    have hname := Node.draw_confined hmissing name _ (hplace.child 0) hlocal.1
    have hdescription := Node.draw_confined hmissing description _ (hplace.child 1) hlocal.2.1
    have hschema := Node.draw_confined hmissing schema _ (hplace.child 2) hlocal.2.2
    exact (c.tableResource_confined (hname.as _) (hdescription.as _) (hschema.as _)).map _
  | .package name description resource resources, place, hplace, hlocal => by
    simp only [Node.Local, imp_and] at hlocal
    rw [Node.draw]
    have hname := Node.draw_confined hmissing name _ (hplace.child 0) hlocal.1
    have hdescription := Node.draw_confined hmissing description _ (hplace.child 1) hlocal.2.1
    have hresource := Node.draw_confined hmissing resource _ (hplace.child 2) hlocal.2.2
    exact (c.package_confined (hname.as _) (hdescription.as _) (hresource.as _) resources).map _

/-- The chosen child touches what lies below its own place; where the count begins does not
    matter. -/
theorem Node.drawNth_confined (hmissing : Confined f missing) : ∀ (ns : List Node) (place : Place),
    f.Covers place → (¬ f.ledger → Node.AllLocal ns) → ∀ index chosen : Nat,
      Confined f (Node.drawNth c missing place index chosen ns)
  | [], _, _, _, _, _ => .throw _
  | n :: rest, place, hplace, hlocal, index, chosen => by
    simp only [Node.AllLocal, imp_and] at hlocal
    rw [Node.drawNth]
    split
    · exact Node.draw_confined hmissing n _ (hplace.child index) hlocal.1
    · exact Node.drawNth_confined hmissing rest place hplace hlocal.2 (index + 1) chosen

/-- All children together touch what lies below their place, and the places of the children
    themselves if their values have to be new there. -/
theorem Node.drawEach_confined (hmissing : Confined f missing) : ∀ (ns : List Node) (place : Place),
    f.Covers place → (¬ f.ledger → Node.AllLocal ns) → ∀ (distinct : Bool) (index : Nat),
      Confined f (Node.drawEach c missing place distinct index ns)
  | [], _, _, _, _, _ => .pure []
  | n :: rest, place, hplace, hlocal, distinct, index => by
    simp only [Node.AllLocal, imp_and] at hlocal
    rw [Node.drawEach]
    have hchild := Node.draw_confined hmissing n _ (hplace.child index) hlocal.1
    have hitem := c.item_confined hchild (hplace.child index).self distinct
    have hrest := Node.drawEach_confined hmissing rest place hplace hlocal.2 distinct (index + 1)
    cases distinct with
    | true => exact hitem.bind fun _ => hrest.bind fun _ => .pure _
    | false => exact hitem.bind fun _ => hrest.bind fun _ => .pure _

/-- Field groups touch what lies below their place, be it one node for all of them or a list with a
    node for each. -/
theorem FieldGroups.draw_confined (hmissing : Confined f missing) : ∀ (g : FieldGroups) (place : Place),
    f.Covers place → (¬ f.ledger → g.Local) → Confined f (FieldGroups.draw c missing place g)
  | .one node, place, hplace, hlocal => by
    simp only [FieldGroups.Local] at hlocal
    rw [FieldGroups.draw]
    exact (Node.draw_confined hmissing node _ (hplace.child 0) hlocal).as _
  | .many nodes, place, hplace, hlocal => by
    simp only [FieldGroups.Local] at hlocal
    rw [FieldGroups.draw]
    have hgroups := Node.drawGroups_confined hmissing nodes place hplace hlocal 0
    split
    · exact (Confined.throw _).bind fun _ => hgroups.bind fun _ => .pure _
    · exact hgroups.bind fun _ => .pure _

/-- So does each group of a list, at its own place. -/
theorem Node.drawGroups_confined (hmissing : Confined f missing) : ∀ (ns : List Node) (place : Place),
    f.Covers place → (¬ f.ledger → Node.AllLocal ns) → ∀ index : Nat,
      Confined f (Node.drawGroups c missing place index ns)
  | [], _, _, _, _ => .pure []
  | n :: rest, place, hplace, hlocal, index => by
    simp only [Node.AllLocal, imp_and] at hlocal
    rw [Node.drawGroups]
    have hfields := (Node.draw_confined hmissing n _ (hplace.child index) hlocal.1).as Value.toFields
    have hrest := Node.drawGroups_confined hmissing rest place hplace hlocal.2 (index + 1)
    exact hfields.bind fun _ => hrest.bind fun _ => .pure _

end

end Trees

end SyntheticTables
