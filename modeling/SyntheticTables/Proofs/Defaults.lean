/-
  The defaults of a run reach only the nodes that leave them out.

  A run has two defaults: how likely an optional child is drawn, and how a token for a missing value
  is spelled.  The first is read by a `maybe` node without a probability, the second by a
  `missingValueName` node without a style, and by nothing else: the optional attributes of columns
  have probabilities of their own, and the context serves words and attempts besides.  Two settings
  in which every node finds the same defaults (`Node.SameDefaults`) therefore draw the same.
-/
import SyntheticTables.Proofs.Config.DeclaredType
import SyntheticTables.Proofs.Run

namespace SyntheticTables

open Draw

/-! ## Another probability -/

namespace Context

/-- The same context, but for how likely an optional child is drawn. -/
def withProbability (c : Context) (p : Float) : Context := { c with optionalProbability := p }

variable (c : Context) (p : Float)

section Texts

variable (m : Draw String)

/-- A search among texts does not ask for the probability, and neither do the draws below: each is
    the same function in both contexts.  The inductions only carry that through the loops. -/
theorem newTextsOnto_withProbability (n : Nat) (seen : Std.TreeSet String) (drawn : List String) :
    (c.withProbability p).newTextsOnto m seen drawn n = c.newTextsOnto m seen drawn n := by
  induction n generalizing seen drawn with
  | zero => rfl
  | succ n ih =>
    unfold newTextsOnto
    exact congrArg (c.newText seen m >>= ·) (funext fun found => ih found.2 (found.1 :: drawn))

/-- A number of texts unlike each other is drawn alike in both contexts. -/
theorem distinctTexts_withProbability (count : SizeSpec) :
    (c.withProbability p).distinctTexts count m = c.distinctTexts count m := by
  unfold distinctTexts
  simp only [newTextsOnto_withProbability]

/-- Tokens for missing values are left out with a probability of their own, not with that of the
    context. -/
theorem missingValues_withProbability (max : UInt64) (undefinedProb : Float) :
    (c.withProbability p).missingValues m max undefinedProb
      = c.missingValues m max undefinedProb := by
  unfold missingValues
  rw [distinctTexts_withProbability]

/-- Labels are drawn alike, whether there are any or not. -/
theorem labelsOnto_withProbability (labeled : Bool) (seen : Std.TreeSet String)
    (drawn : List Level) (values : List LevelValue) :
    (c.withProbability p).labelsOnto m labeled seen drawn values
      = c.labelsOnto m labeled seen drawn values := by
  induction values generalizing seen drawn with
  | nil => rfl
  | cons value rest ih =>
    unfold labelsOnto
    cases labeled with
    | true => exact congrArg (c.newText seen m >>= ·) (funext fun found => ih found.2 _)
    | false => exact ih seen _

end Texts

section Types

variable (labelName missingName : Draw String)

/-- A column of integers has its own probability of leaving an attribute out (`undefinedProb`). -/
theorem integerType_withProbability (params : IntegerTypeParams) :
    (c.withProbability p).integerType params missingName = c.integerType params missingName := by
  unfold integerType
  simp only [missingValues_withProbability]
  rfl

/-- So has a column of floats. -/
theorem numberType_withProbability (params : NumberTypeParams) :
    (c.withProbability p).numberType params missingName = c.numberType params missingName := by
  unfold numberType
  simp only [missingValues_withProbability]
  rfl

/-- So has a column of texts. -/
theorem stringType_withProbability (params : StringTypeParams) :
    (c.withProbability p).stringType params missingName = c.stringType params missingName := by
  unfold stringType
  simp only [missingValues_withProbability]
  rfl

/-- So has a column with levels of integers, and one of going without labels. -/
theorem enumIntegerType_withProbability (params : EnumIntegerTypeParams) :
    (c.withProbability p).enumIntegerType params labelName missingName
      = c.enumIntegerType params labelName missingName := by
  unfold enumIntegerType
  simp only [missingValues_withProbability, labelsOnto_withProbability]
  rfl

/-- So has a column with levels of texts. -/
theorem enumStringType_withProbability (params : EnumStringTypeParams) :
    (c.withProbability p).enumStringType params labelName missingName
      = c.enumStringType params labelName missingName := by
  unfold enumStringType
  simp only [missingValues_withProbability, distinctTexts_withProbability]
  rfl

end Types

/-- Columns are drawn alike if their types are. -/
theorem fieldsOnto_withProbability (fieldType : Draw FieldType) (drawn : List Field)
    (metas : List FieldMeta) :
    (c.withProbability p).fieldsOnto fieldType drawn metas = c.fieldsOnto fieldType drawn metas := by
  induction metas generalizing drawn with
  | nil => rfl
  | cons info rest ih =>
    unfold fieldsOnto
    exact congrArg (fieldType >>= ·) (funext fun type => ih (⟨info, type⟩ :: drawn))

/-- A group of columns is drawn alike if its entries and types are. -/
theorem fieldGroup_withProbability (groupMeta : Draw (List FieldMeta)) (fieldType : Draw FieldType) :
    (c.withProbability p).fieldGroup groupMeta fieldType = c.fieldGroup groupMeta fieldType := by
  unfold fieldGroup
  simp only [fieldsOnto_withProbability]

/-- A table is drawn alike if its parts are; its cells depend on the words alone (`rows_congr`). -/
theorem tableResource_withProbability (name : Draw String) (description : Draw (Option String))
    (schema : Draw TableSchema) :
    (c.withProbability p).tableResource name description schema
      = c.tableResource name description schema := by
  unfold tableResource
  simp only [rows_congr (c := c) (d := c.withProbability p) rfl]

end Context

/-! ## Trees -/

namespace Node

/-- It holds of the node and of every node below it. -/
inductive Everywhere (P : Node → Prop) : Node → Prop
  | intro {n : Node} (here : P n) (below : ∀ child ∈ n.children, Everywhere P child) :
    Everywhere P n

/-- Of a node without children it is enough to look at the node. -/
theorem Everywhere.leaf {P : Node → Prop} {n : Node} (here : P n) (h : n.children = []) :
    n.Everywhere P :=
  .intro here (h ▸ nofun)

/-- Of a node with one child, at the node and below that child. -/
theorem Everywhere.single {P : Node → Prop} {n child : Node} (here : P n)
    (h : n.children = [child]) (below : child.Everywhere P) : n.Everywhere P :=
  .intro here (h ▸ List.forall_mem_singleton.mpr below)

/-- What holds of the nodes of a tree may be weakened. -/
theorem Everywhere.mono {P Q : Node → Prop} (h : ∀ n, P n → Q n) {n : Node}
    (hn : n.Everywhere P) : n.Everywhere Q := by
  induction hn with
  | intro here _ ih => exact .intro (h _ here) ih

/-- A child that may be left out says itself how likely it is drawn. -/
def NamesProbability : Node → Prop
  | .maybe none _ => False
  | _ => True

/-- A token for a missing value says itself how it is spelled. -/
def NamesStyle : Node → Prop
  | .missingValueName none => False
  | _ => True

/-- What the node leaves to the run is the same in two settings. -/
def SameDefaults (p p' : Float) (missing missing' : Draw String) : Node → Prop
  | .maybe none _ => p' = p
  | .missingValueName none => missing' = missing
  | _ => True

section Settings

variable {c : Context} {p : Float} {missing missing' : Draw String}

/-- The node draws the same at every place. -/
abbrev SameDraws (c : Context) (p : Float) (missing missing' : Draw String) (n : Node) : Prop :=
  ∀ place, n.draw (c.withProbability p) missing' place = n.draw c missing place

/-- The chosen child draws the same if each child does. -/
theorem drawNth_congr {ns : List Node} (h : ∀ n ∈ ns, SameDraws c p missing missing' n)
    (place : Place) (index chosen : Nat) :
    drawNth (c.withProbability p) missing' place index chosen ns
      = drawNth c missing place index chosen ns := by
  induction ns generalizing index with
  | nil => rfl
  | cons n rest ih =>
    obtain ⟨hn, hrest⟩ := List.forall_mem_cons.mp h
    rw [drawNth, drawNth, hn, ih hrest]

/-- All children draw the same if each of them does. -/
theorem drawEach_congr {ns : List Node} (h : ∀ n ∈ ns, SameDraws c p missing missing' n)
    (place : Place) (distinct : Bool) (index : Nat) :
    drawEach (c.withProbability p) missing' place distinct index ns
      = drawEach c missing place distinct index ns := by
  induction ns generalizing index with
  | nil => rfl
  | cons n rest ih =>
    obtain ⟨hn, hrest⟩ := List.forall_mem_cons.mp h
    rw [drawEach, drawEach, hn, ih hrest]
    rfl

/-- So do the groups of a list. -/
theorem drawGroups_congr {ns : List Node} (h : ∀ n ∈ ns, SameDraws c p missing missing' n)
    (place : Place) (index : Nat) :
    drawGroups (c.withProbability p) missing' place index ns
      = drawGroups c missing place index ns := by
  induction ns generalizing index with
  | nil => rfl
  | cons n rest ih =>
    obtain ⟨hn, hrest⟩ := List.forall_mem_cons.mp h
    rw [drawGroups, drawGroups, hn, ih hrest]

/-- So do field groups, be it one or a list. -/
theorem draw_fieldGroups_congr {g : FieldGroups}
    (h : ∀ n ∈ (Argument.fieldGroups g).children, SameDraws c p missing missing' n) (place : Place) :
    FieldGroups.draw (c.withProbability p) missing' place g = FieldGroups.draw c missing place g := by
  cases g with
  | one n => rw [FieldGroups.draw, FieldGroups.draw, h n (List.mem_singleton_self n)]
  | many ns =>
    have hns : ∀ n ∈ ns, SameDraws c p missing missing' n := h
    rw [FieldGroups.draw, FieldGroups.draw, drawGroups_congr hns]

/-- A tree draws the same in two settings if each of its nodes finds the same defaults. -/
theorem draw_congr (n : Node)
    (h : n.Everywhere (SameDefaults c.optionalProbability p missing missing')) :
    SameDraws c p missing missing' n := by
  induction h with
  | @intro n here _ hbelow =>
    intro place
    cases n with
    | word | words joiner count =>
      rw [draw, draw]
      rfl
    | integer min max | number min max | boolean prob | interval start length => rw [draw, draw]
    -- the two nodes that may leave something to the run are this one and `maybe`
    | missingValueName style =>
      rw [draw.eq_def, draw.eq_def]
      cases style with
      | some style => rfl
      | none =>
        have hsame : missing' = missing := here
        rw [hsame]
    | maybe prob child =>
      have hchild := hbelow child (by simp)
      cases prob with
      | some prob =>
        rw [draw, draw, hchild]
        rfl
      | none =>
        have hsame : p = c.optionalProbability := here
        rw [draw, draw, hchild, hsame]
        rfl
    | choice ns =>
      rw [children_choice] at hbelow
      rw [draw, draw]
      simp only [drawNth_congr hbelow]
    | seq ns distinct =>
      rw [children_seq] at hbelow
      rw [draw, draw, drawEach_congr hbelow]
    | batch child count distinct =>
      have hchild := hbelow child (by simp)
      rw [draw, draw, hchild]
      rfl
    | unique child =>
      have hchild := hbelow child (by simp)
      rw [draw, draw, hchild]
      rfl
    | integerFieldType params missingName =>
      have hname := hbelow missingName (by simp)
      rw [draw, draw, hname, Context.integerType_withProbability]
    | numberFieldType params missingName =>
      have hname := hbelow missingName (by simp)
      rw [draw, draw, hname, Context.numberType_withProbability]
    | stringFieldType params missingName =>
      have hname := hbelow missingName (by simp)
      rw [draw, draw, hname, Context.stringType_withProbability]
    | enumIntegerFieldType params labelName missingName =>
      have hlabel := hbelow labelName (by simp)
      have hname := hbelow missingName (by simp)
      rw [draw, draw, hlabel, hname, Context.enumIntegerType_withProbability]
    | enumStringFieldType params labelName missingName =>
      have hlabel := hbelow labelName (by simp)
      have hname := hbelow missingName (by simp)
      rw [draw, draw, hlabel, hname, Context.enumStringType_withProbability]
    | metaGroup groupName count fieldName title description undefinedProb =>
      have hgroup := hbelow groupName (by simp)
      have hname := hbelow fieldName (by simp)
      have htitle := hbelow title (by simp)
      have hdescription := hbelow description (by simp)
      rw [draw, draw, hgroup, hname, htitle, hdescription]
      rfl
    | fieldGroup groupMeta fieldType | likertFieldGroup groupMeta fieldType =>
      have hmeta := hbelow groupMeta (by simp)
      have htype := hbelow fieldType (by simp)
      rw [draw, draw, hmeta, htype, Context.fieldGroup_withProbability]
    | tableSchema fields rows missingName missingMax undefinedProb =>
      have hfields : ∀ n ∈ (Argument.fieldGroups fields).children, SameDraws c p missing missing' n :=
        fun n hn => hbelow n (by simp [hn])
      have hname := hbelow missingName (by simp)
      rw [draw, draw, draw_fieldGroups_congr hfields, hname, Context.missingValues_withProbability]
      rfl
    | tableResource name description schema =>
      have hname := hbelow name (by simp)
      have hdescription := hbelow description (by simp)
      have hschema := hbelow schema (by simp)
      rw [draw, draw, hname, hdescription, hschema, Context.tableResource_withProbability]
    | package name description resource resources =>
      have hname := hbelow name (by simp)
      have hdescription := hbelow description (by simp)
      have hresource := hbelow resource (by simp)
      rw [draw, draw, hname, hdescription, hresource]
      rfl

end Settings

end Node

/-! ## Trees of texts -/

namespace Node

/-- A tree of texts has no child that may be left out. -/
theorem everywhere_namesProbability {n : Node} (h : n.declaredType.satisfies Check.text = true) :
    n.Everywhere NamesProbability := by
  refine text_induction ?word ?words ?missingValueName ?choice ?unique h
  case word => exact .leaf trivial rfl
  case words => exact fun _ _ => .leaf trivial rfl
  case missingValueName =>
    intro style
    cases style <;> exact .leaf trivial rfl
  case choice => exact fun ns ih => .intro trivial (by rwa [children_choice])
  case unique => exact fun n ih => .single trivial rfl ih

/-- A node that says itself how likely its child is finds the same defaults whatever the probability
    of the run is. -/
theorem NamesProbability.sameDefaults {p p' : Float} {missing : Draw String} {n : Node}
    (h : n.NamesProbability) : n.SameDefaults p p' missing missing := by
  unfold NamesProbability at h
  unfold SameDefaults
  split
  · exact h.elim
  · rfl
  · trivial

/-- A node that says itself how its token is spelled finds the same defaults whatever tokens the run
    draws. -/
theorem NamesStyle.sameDefaults {p : Float} {missing missing' : Draw String} {n : Node}
    (h : n.NamesStyle) : n.SameDefaults p p missing missing' := by
  unfold NamesStyle at h
  unfold SameDefaults
  split
  · rfl
  · exact h.elim
  · trivial

end Node

/-! ## Runs -/

namespace Run

/-- The same run, but for how likely an optional child is drawn. -/
def withProbability (r : Run) (p : Float) : Run :=
  { r with context := r.context.withProbability p }

/-- The calls of a run in which a token without a style is whatever `missing` draws. -/
def callsAsking (c : Context) (missing : Draw String) :
    List (Nat × Node) → State → List (Except GenError Value) × State
  | [], s => ([], s)
  | (number, n) :: rest, s =>
    let (result, s) := n.draw c missing (rootPlace number) s
    let (results, s) := callsAsking c missing rest s
    (result :: results, s)

/-- The first call and those after it, from the state that it leaves. -/
theorem callsAsking_cons (c : Context) (missing : Draw String) (call : Nat × Node)
    (rest : List (Nat × Node)) (s : State) :
    let first := call.2.draw c missing (rootPlace call.1) s
    callsAsking c missing (call :: rest) s
      = (first.1 :: (callsAsking c missing rest first.2).1, (callsAsking c missing rest first.2).2) :=
  rfl

/-- Calls whose trees draw as they do in the run come out as they do in the run. -/
theorem callsAsking_congr {r : Run} {missing : Draw String} {calls : List (Nat × Node)}
    (h : ∀ call ∈ calls, call.2.draw r.context missing (rootPlace call.1) = r.draw call.1 call.2)
    (s : State) : callsAsking r.context missing calls s = r.calls calls s := by
  induction calls generalizing s with
  | nil => rfl
  | cons call rest ih =>
    obtain ⟨hfirst, hrest⟩ := List.forall_mem_cons.mp h
    rw [callsAsking_cons, calls_cons, hfirst, ih hrest]

/-- A run asks for its own tokens. -/
theorem callsAsking_defaultMissing (r : Run) (calls : List (Nat × Node)) (s : State) :
    callsAsking r.context r.defaultMissing calls s = r.calls calls s :=
  callsAsking_congr (fun _ _ => rfl) s

/-- Calls whose trees draw the same in two runs have the same results in both and leave the same
    state. -/
theorem calls_congr {r r' : Run} {calls : List (Nat × Node)}
    (h : ∀ call ∈ calls, r'.draw call.1 call.2 = r.draw call.1 call.2) (s : State) :
    r'.calls calls s = r.calls calls s := by
  induction calls generalizing s with
  | nil => rfl
  | cons call rest ih =>
    obtain ⟨hfirst, hrest⟩ := List.forall_mem_cons.mp h
    rw [calls_cons, calls_cons, hfirst, ih hrest]

/-- Where the tree for missing values names its probabilities, too, its tokens are the same. -/
theorem defaultMissing_withProbability {r : Run} (p : Float)
    (h : ∀ n, r.missing = .custom n → n.Everywhere Node.NamesProbability) :
    (r.withProbability p).defaultMissing = r.defaultMissing := by
  unfold defaultMissing withProbability
  cases hmissing : r.missing with
  | style s => rfl
  | custom n =>
    have hsame : Node.SameDraws r.context p (r.context.missingName .spss)
        (r.context.missingName .spss) n :=
      Node.draw_congr n ((h n hmissing).mono fun _ hm => hm.sameDefaults)
    exact congrArg (·.as Value.toText) (hsame customPlace)

/-- Trees that name their probabilities draw the same in both runs. -/
theorem draw_withProbability {r : Run} (p : Float)
    (hcustom : ∀ n, r.missing = .custom n → n.Everywhere Node.NamesProbability) (number : Nat)
    {n : Node} (hn : n.Everywhere Node.NamesProbability) :
    (r.withProbability p).draw number n = r.draw number n := by
  unfold draw
  rw [defaultMissing_withProbability p hcustom]
  exact Node.draw_congr n (hn.mono fun _ hm => hm.sameDefaults) (rootPlace number)

/-- Trees that name their styles draw the same, whatever a token without a style is drawn from. -/
theorem callsAsking_of_namesStyle (r : Run) (missing : Draw String) {calls : List (Nat × Node)}
    (h : ∀ call ∈ calls, call.2.Everywhere Node.NamesStyle) (s : State) :
    callsAsking r.context missing calls s = r.calls calls s :=
  callsAsking_congr (fun call hcall =>
    Node.draw_congr call.2 ((h call hcall).mono fun _ hm => hm.sameDefaults) (rootPlace call.1)) s

/-! ## Options -/

section Options

variable {o : ContextOptions} {custom : Option Node}
  {wordlist : String → Except VocabularyError (List String)} {r : Run}
  (hr : ofOptions o custom wordlist = .ok r)

include hr

/-- Any other probability is accepted, too, and changes nothing else. -/
theorem ofOptions_withProbability {p : Float} (hp : 0.0 ≤ p ∧ p ≤ 1.0) :
    ofOptions { o with optionalProbability := p } custom wordlist = .ok (r.withProbability p) := by
  obtain ⟨hcheck, words, hwords, hsome, rfl⟩ := ofOptions_eq_ok_iff.mp hr
  refine ofOptions_eq_ok_iff.mpr ⟨?_, words, hwords, hsome, rfl⟩
  unfold ContextOptions.check at hcheck ⊢
  split at hcheck
  · cases hcheck
  · rename_i hattempts
    rw [if_neg hattempts, if_pos hp]

/-- Neither does another style, or another tree for missing values: the options are checked without
    a look at either. -/
theorem ofOptions_withMissing (style : MissingStyle) (custom' : Option Node) :
    ofOptions { o with missingStyle := style } custom' wordlist
      = .ok { r with missing := custom'.elim (.style style) .custom } := by
  obtain ⟨hcheck, words, hwords, hsome, rfl⟩ := ofOptions_eq_ok_iff.mp hr
  exact ofOptions_eq_ok_iff.mpr ⟨hcheck, words, hwords, hsome, rfl⟩

/-- A run has a tree for tokens only if it was given one. -/
theorem eq_some_of_missing {n : Node} (h : r.missing = .custom n) : custom = some n := by
  obtain ⟨-, words, -, hsome, rfl⟩ := ofOptions_eq_ok_iff.mp hr
  cases custom with
  | none => cases h
  | some m =>
    cases h
    rfl

/-- If the trees of all calls name their probabilities, then whatever other probability the options
    give, the calls have the same results and leave the same state.  (So has the tree for missing
    values to name its own; a tree of texts has none to name.)  If they name their styles for missing
    values, nothing asks for a token in the default of the run: the same holds whatever draw it asks
    for one, be it one that fails or one that changes the state, and so for any other style in the
    options, and for any or no tree for missing values. -/
theorem calls_of_other_defaults (calls : List (Nat × Node)) (s : State) :
    ((∀ call ∈ calls, call.2.Everywhere Node.NamesProbability) →
      (∀ n ∈ custom, n.Everywhere Node.NamesProbability ∨
        n.declaredType.satisfies Check.text = true) →
      ∀ p : Float, 0.0 ≤ p ∧ p ≤ 1.0 →
        ∃ r', ofOptions { o with optionalProbability := p } custom wordlist = .ok r' ∧
          r'.calls calls s = r.calls calls s) ∧
    ((∀ call ∈ calls, call.2.Everywhere Node.NamesStyle) →
      (∀ missing : Draw String, callsAsking r.context missing calls s = r.calls calls s) ∧
      ∀ (style : MissingStyle) (custom' : Option Node),
        ∃ r', ofOptions { o with missingStyle := style } custom' wordlist = .ok r' ∧
          r'.calls calls s = r.calls calls s) := by
  constructor
  · intro hcalls htree p hp
    have hcustom : ∀ n, r.missing = .custom n → n.Everywhere Node.NamesProbability := fun n hn =>
      (htree n (eq_some_of_missing hr hn)).elim id Node.everywhere_namesProbability
    refine ⟨r.withProbability p, ofOptions_withProbability hr hp, calls_congr (fun call hcall => ?_) s⟩
    exact draw_withProbability p hcustom call.1 (hcalls call hcall)
  · intro hcalls
    have hasking := fun missing => r.callsAsking_of_namesStyle missing hcalls s
    refine ⟨hasking, fun style custom' => ⟨_, ofOptions_withMissing hr style custom', ?_⟩⟩
    -- the other run has the same context, and asks for its tokens in its own default
    rw [← callsAsking_defaultMissing]
    exact hasking _

end Options

/-- Tokens for missing values: a word that is new in the run, or what they are by default. -/
def tokenTree : Node := .choice [.unique .word, .missingValueName none]

/-- Calls that leave the style of tokens to the run, but no probability. -/
def probableCalls : List (Nat × Node) := [
  (0, .maybe (some 0.5) (.integerFieldType {} (.missingValueName none))),
  (1, .missingValueName none)]

/-- Calls that leave a probability to the run, but no style of tokens. -/
def styledCalls : List (Nat × Node) := [
  (0, .maybe none (.integerFieldType {} (.missingValueName (some .stata)))),
  (1, .missingValueName (some .spss))]

/-- A draw of tokens that empties the ledger and fails. -/
def harmfulToken : Draw String := fun s => (.error (.uniquenessExhausted .run 1), { s with ledger := ∅ })

/-- The input is a run of the tree above for missing values, from the state of seed 5.  Calls that
    name their probabilities do not notice that the options leave out optional children; calls that
    name their styles notice neither a draw of tokens that empties the ledger and fails, nor that
    the options have another style and no tree. -/
theorem calls_of_other_defaults_tokens :
    let s := State.ofSeed 5
    let words : String → Except VocabularyError (List String) := fun _ => .ok ["word", "name"]
    ∃ r, ofOptions {} (some tokenTree) words = .ok r ∧
      (∃ r', ofOptions { optionalProbability := 0.0 } (some tokenTree) words = .ok r' ∧
        r'.calls probableCalls s = r.calls probableCalls s) ∧
      callsAsking r.context harmfulToken styledCalls s = r.calls styledCalls s ∧
      ∃ r', ofOptions { missingStyle := .underscore } none words = .ok r' ∧
        r'.calls styledCalls s = r.calls styledCalls s := by
  intro s words
  obtain ⟨r, hr⟩ : ∃ r, ofOptions {} (some tokenTree) words = .ok r := ⟨_, rfl⟩
  have hprobable : ∀ call ∈ probableCalls, call.2.Everywhere Node.NamesProbability :=
    List.forall_mem_cons.mpr ⟨.single trivial rfl (.single trivial rfl (.leaf trivial rfl)),
      List.forall_mem_singleton.mpr (.leaf trivial rfl)⟩
  have hstyled : ∀ call ∈ styledCalls, call.2.Everywhere Node.NamesStyle :=
    List.forall_mem_cons.mpr ⟨.single trivial rfl (.single trivial rfl (.leaf trivial rfl)),
      List.forall_mem_singleton.mpr (.leaf trivial rfl)⟩
  have htext : tokenTree.declaredType.satisfies Check.text = true := by decide
  have hp : (0.0 : Float) ≤ 0.0 ∧ (0.0 : Float) ≤ 1.0 := by decide
  obtain ⟨hasking, hother⟩ := (calls_of_other_defaults hr styledCalls s).2 hstyled
  refine ⟨r, hr, (calls_of_other_defaults hr probableCalls s).1 hprobable ?_ 0.0 hp,
    hasking harmfulToken, hother .underscore none⟩
  rintro n ⟨⟩
  exact .inr htext

end Run

end SyntheticTables
