/-
  Whole runs.

  A run is a sequence of calls on trees that share a state (`Run.calls`); a call that fails leaves the
  state it got to, and the next one goes on from there.  What one call does is a `State.Step`, so
  what a sequence does is one, too, and that the run never hands out a key twice is the induction
  over the calls.  Calls on checked trees give values of the declared type with sound contents, or
  use up the attempts of a search.
-/
import SyntheticTables.Proofs.Draw.Tree
import Mathlib.Data.List.Forall2

namespace SyntheticTables

open Draw

namespace Run

/-! ## Calls -/

/-- Draws one value after the other, each of the tree that has its number in the run. -/
def calls (r : Run) : List (Nat × Node) → State → List (Except GenError Value) × State
  | [], s => ([], s)
  | (number, n) :: rest, s =>
    let (result, s) := r.draw number n s
    let (results, s) := r.calls rest s
    (result :: results, s)

variable (r : Run)

/-- The first call and those after it, which go on from the state that it leaves whether it failed
    or not. -/
theorem calls_cons (number : Nat) (n : Node) (rest : List (Nat × Node)) (s : State) :
    r.calls ((number, n) :: rest) s = ((r.draw number n s).1 :: (r.calls rest (r.draw number n s).2).1,
      (r.calls rest (r.draw number n s).2).2) := rfl

/-- Calls before and calls after are one sequence; what comes before matters to what comes after
    through its state alone. -/
theorem calls_append (before after : List (Nat × Node)) (s : State) :
    r.calls (before ++ after) s = ((r.calls before s).1 ++ (r.calls after (r.calls before s).2).1,
      (r.calls after (r.calls before s).2).2) := by
  induction before generalizing s with
  | nil => rfl
  | cons call rest ih =>
    obtain ⟨number, n⟩ := call
    rw [List.cons_append, calls_cons, calls_cons, ih, List.cons_append]

/-! ## Settings -/

/-- A token in a given style can always be drawn. -/
theorem gives_style (style : MissingStyle) {E : GenError → Prop} (h : r.missing = .style style) :
    Gives E (fun _ => True) r.defaultMissing := by
  unfold defaultMissing
  rw [h]
  exact r.context.gives_missingName style

/-- If any error may come, a tree of any kind may draw the tokens for missing values. -/
theorem gives_defaultMissing : Gives (fun _ => True) (fun _ => True) r.defaultMissing := by
  cases h : r.missing with
  | style s => exact r.gives_style s h
  | custom node =>
    unfold defaultMissing
    rw [h]
    -- inside the tree, a token without a style is a negative integer
    have hsetting : Setting (fun _ => True) False r.context (r.context.missingName .spss) :=
      ⟨fun _ => trivial, r.context.gives_missingName .spss, .inr fun _ => trivial⟩
    exact hsetting.textSlot False.elim (Node.drawsOf hsetting node customPlace False.elim)

/-- Any run is a setting for trees that may end in any error; with `checked` false nothing is asked
    of the tree. -/
theorem setting (checked : Prop) :
    Setting (fun _ => True) checked r.context r.defaultMissing :=
  ⟨fun _ => trivial, r.gives_defaultMissing, .inr fun _ => trivial⟩

/-- The errors of a search that used up its attempts. -/
def Exhausted (attempts : UInt32) (e : GenError) : Prop :=
  ∃ scope, e = .uniquenessExhausted scope attempts

/-- A run without a tree for tokens is a setting in which only searches may fail. -/
theorem setting_of_style {style : MissingStyle} (h : r.missing = .style style) :
    Setting (Exhausted r.context.attempts) True r.context r.defaultMissing :=
  ⟨fun scope => ⟨scope, rfl⟩, r.gives_style style h, .inl trivial⟩

/-- The run that options make which pass their check, with the words of their locale.  The locale is
    normalized before its words are read, and a list without words makes no run. -/
theorem ofOptions_eq_ok_iff {o : ContextOptions} {custom : Option Node}
    {wordlist : String → Except VocabularyError (List String)} {r : Run} :
    ofOptions o custom wordlist = .ok r ↔ o.check = .ok () ∧
      ∃ words, wordlist (normalizeLocale o.locale) = .ok words ∧
        ∃ hsome : 0 < words.toArray.size, r = {
          context := {
            locale := normalizeLocale o.locale
            vocabulary := words.toArray
            nonempty := hsome
            attempts := o.maxUniqueAttempts
            optionalProbability := o.optionalProbability }
          missing := custom.elim (.style o.missingStyle) .custom } := by
  constructor
  · intro h
    cases hcheck : o.check with
    | error e =>
      simp only [ofOptions, hcheck] at h
      cases h
    | ok u =>
      cases hwords : wordlist (normalizeLocale o.locale) with
      | error e =>
        simp only [ofOptions, hcheck, hwords] at h
        cases h
      | ok words =>
        simp only [ofOptions, hcheck, hwords] at h
        split at h
        · rename_i hsome
          cases h
          refine ⟨rfl, words, rfl, hsome, ?_⟩
          cases custom <;> rfl
        · cases h
  · rintro ⟨hcheck, words, hwords, hsome, rfl⟩
    simp only [ofOptions, hcheck, hwords]
    rw [dif_pos hsome]
    cases custom <;> rfl

/-- What the options say about a run without a tree of its own for missing values. -/
theorem ofOptions_eq_ok {o : ContextOptions}
    {wordlist : String → Except VocabularyError (List String)} {r : Run}
    (h : ofOptions o none wordlist = .ok r) :
    r.missing = .style o.missingStyle ∧ r.context.attempts = o.maxUniqueAttempts := by
  obtain ⟨-, words, -, hsome, rfl⟩ := ofOptions_eq_ok_iff.mp h
  exact ⟨rfl, rfl⟩

/-- A tree of most kinds of nodes: a package of up to three tables. -/
def packageTree : Node :=
  .package (Node.defaultName .kebabCase) Node.defaultSentence Node.defaultTableResource (.range 1 3)

/-! ## Type safety -/

/-- What a call on a checked tree may come to: a value of the declared type, or a search for a new
    value that used up its attempts. -/
def IsSafe (attempts : UInt32) (t : TypeDesc) : Except GenError Value → Prop
  | .ok v => v.conforms t = true
  | .error e => Exhausted attempts e

/-- One call on a checked tree is safe from every state, so the sequence of calls below is an
    induction that passes states along and nothing else. -/
theorem draw_isSafe {style : MissingStyle} (h : r.missing = .style style) (number : Nat) {n : Node}
    (hn : n.WellFormed) (s : State) :
    IsSafe r.context.attempts n.declaredType (r.draw number n s).1 := by
  obtain ⟨new, -, hr⟩ := Node.drawsOf (r.setting_of_style h) n (rootPlace number) (fun _ => hn) s
  revert hr
  unfold draw
  rcases (n.draw r.context r.defaultMissing (rootPlace number) s).1 with e | v
  · exact id
  · exact fun hr => (hr.2 trivial).1

/-- Calls on checked trees give values of the declared types, and fail only where a search for a new
    value uses up its attempts; no slot gets a value it has no use for, no choice and no set of levels
    is empty, and no range to draw from is. -/
theorem calls_type_safe {o : ContextOptions}
    {wordlist : String → Except VocabularyError (List String)} {r : Run}
    (hr : ofOptions o none wordlist = .ok r) (calls : List (Nat × Node)) (s : State)
    (hcalls : ∀ call ∈ calls, call.2.check = .ok ()) :
    List.Forall₂ (fun call result => IsSafe o.maxUniqueAttempts call.2.declaredType result)
      calls (r.calls calls s).1 := by
  obtain ⟨hstyle, hattempts⟩ := ofOptions_eq_ok hr
  induction calls generalizing s with
  | nil => exact .nil
  | cons call rest ih =>
    obtain ⟨number, n⟩ := call
    have hn := Node.check_eq_ok_iff.mp (hcalls _ List.mem_cons_self)
    have hsafe := r.draw_isSafe hstyle number hn s
    rw [hattempts] at hsafe
    rw [calls_cons]
    exact .cons hsafe (ih _ fun call hcall => hcalls call (List.mem_cons_of_mem _ hcall))

/-- The input is a run with two words and the options that nobody gave, from the state of seed 7: a
    package of up to three tables, a word, and another package of the same tree. -/
theorem calls_type_safe_packageTree :
    ∃ r, ofOptions {} none (fun _ => .ok ["word", "name"]) = .ok r ∧
      List.Forall₂ (fun call result => IsSafe 1000 call.2.declaredType result)
        [(0, packageTree), (1, .word), (0, packageTree)]
        (r.calls [(0, packageTree), (1, .word), (0, packageTree)] (.ofSeed 7)).1 := by
  obtain ⟨r, hr⟩ : ∃ r, ofOptions {} none (fun _ => .ok ["word", "name"]) = .ok r := ⟨_, rfl⟩
  have htree : packageTree.check = .ok () := rfl
  refine ⟨r, hr, calls_type_safe hr _ _ fun call hcall => ?_⟩
  simp only [List.mem_cons, List.not_mem_nil, or_false] at hcall
  rcases hcall with rfl | rfl | rfl
  · exact htree
  · rfl
  · exact htree

/-! ## Validity -/

/-- The values of a checked tree are sound all through. -/
theorem draw_sound (number : Nat) {n : Node} (hn : n.WellFormed) :
    Ensures Value.Sound (r.draw number n) :=
  ((Node.drawsOf (r.setting True) n (rootPlace number) fun _ => hn).mono
    fun _ _ hv => (hv.2 trivial).2).ensures

/-- Every package and every table inside a value of a checked tree passes its own check, from every
    state, be the value a package itself or a sequence that has packages in it. -/
theorem draw_valid (number : Nat) {n : Node} (hn : n.check = .ok ()) :
    Ensures (fun v => (∀ p ∈ v.packages, p.check = .ok ()) ∧ ∀ t ∈ v.resources, t.check = .ok ())
      (r.draw number n) := by
  intro s v hv
  have hsound := r.draw_sound number (Node.check_eq_ok_iff.mp hn) s v hv
  have hresources : ∀ t ∈ v.resources, t.Valid := fun t ht => (hsound.resources t ht).valid
  constructor
  · intro p hp
    exact checkResources_eq_ok_iff.mpr fun t ht =>
      hresources t (Value.mem_resources_of_packages hp ht)
  · intro t ht
    exact TableResource.check_eq_ok_iff.mpr (hresources t ht)

/-- The input is the same tree in a run with two words, from every state: its packages and tables
    are valid. -/
theorem draw_valid_packageTree : packageTree.check = .ok () ∧
    Ensures (fun v => (∀ p ∈ v.packages, p.check = .ok ()) ∧ ∀ t ∈ v.resources, t.check = .ok ())
      (draw ⟨⟨"en_US", #["word", "name"], by decide, 1000, 0.5⟩, .style .spss⟩ 0 packageTree) :=
  ⟨rfl, draw_valid _ 0 rfl⟩

/-! ## Uniqueness -/

/-- The values among some results, in their order; calls that failed have none. -/
def values (results : List (Except GenError Value)) : List Value :=
  results.filterMap fun result => match result with
    | .ok v => some v
    | .error _ => none

/-- One call is a step of the run, and the columns of its value have names it handed out.  Nothing
    is asked of the tree, so this holds of unchecked ones, too. -/
theorem draw_step (number : Nat) (n : Node) (s : State) : ∃ new,
    s.Step new (r.draw number n s).2 ∧
      (nameKeys ((values [(r.draw number n s).1]).flatMap Value.columnNames)).Sublist new := by
  obtain ⟨new, hstep, hr⟩ := Node.drawsOf (r.setting False) n (rootPlace number) False.elim s
  refine ⟨new, hstep, ?_⟩
  revert hr
  unfold draw
  rcases (n.draw r.context r.defaultMissing (rootPlace number) s).1 with e | v
  · exact fun _ => List.nil_sublist new
  · intro hr
    simpa [values] using hr.1

/-- So is a sequence of calls, whether they fail or not: what a failed call has handed out stays
    handed out, and no column has it. -/
theorem calls_step (calls : List (Nat × Node)) (s : State) : ∃ new,
    s.Step new (r.calls calls s).2 ∧
      (nameKeys ((values (r.calls calls s).1).flatMap Value.columnNames)).Sublist new := by
  induction calls generalizing s with
  | nil => exact ⟨[], .of_eq rfl rfl, List.nil_sublist []⟩
  | cons call rest ih =>
    obtain ⟨number, n⟩ := call
    obtain ⟨old, hstep, hold⟩ := r.draw_step number n s
    obtain ⟨new, hsteps, hnew⟩ := ih (r.draw number n s).2
    refine ⟨old ++ new, hstep.trans hsteps, ?_⟩
    have hvalues : values (r.calls ((number, n) :: rest) s).1
        = values [(r.draw number n s).1] ++ values (r.calls rest (r.draw number n s).2).1 := by
      rw [calls_cons, ← List.singleton_append, values, List.filterMap_append]
      rfl
    rw [hvalues, List.flatMap_append, nameKeys, List.map_append]
    exact hold.append hnew

/-- The values of two `unique` trees that are called in one run have different keys, whatever is called
    in between and whether it fails or not: the first key stays in the ledger, and the second search
    accepts none that it finds there. -/
theorem unique_calls_apart (first second : Nat) {n m : Node} (between : List (Nat × Node)) {s : State}
    {v w : Value} (hv : (r.draw first (.unique n) s).1 = .ok v)
    (hw : (r.draw second (.unique m) (r.calls between (r.draw first (.unique n) s).2).2).1 = .ok w) :
    v.key ≠ w.key := by
  -- what a call on a `unique` tree hands out ends with the key of its value
  have hlast : ∀ (number : Nat) (n : Node), Meets (fun _ => True)
      (fun new v => ∃ before, new = before ++ [v.key] ∧ True) (r.draw number (.unique n)) := by
    intro number n
    unfold draw
    rw [Node.draw]
    exact r.context.meets_uniqueInRun trivial (fun _ _ _ h => h)
      ((Node.drawsOf (r.setting False) n _ False.elim).mono fun _ _ _ => trivial)
  obtain ⟨_, hstep, hr⟩ := hlast first n s
  rw [hv] at hr
  obtain ⟨before, rfl, -⟩ := hr
  obtain ⟨_, hsteps, -⟩ := r.calls_step between (r.draw first (.unique n) s).2
  obtain ⟨_, hstep', hr'⟩ := hlast second m (r.calls between (r.draw first (.unique n) s).2).2
  rw [hw] at hr'
  obtain ⟨before', rfl, -⟩ := hr'
  intro hkey
  refine hstep'.fresh w.key (by simp) (hsteps.kept _ ?_)
  exact hkey ▸ hstep.claimed v.key (by simp)

/-- Whatever is called in a run, in whatever order and with whatever outcome: the ledger only grows,
    the keys handed out as unique are unlike each other and in the ledger, and the names of the
    columns in all values are unlike each other, because their keys are among those.

    What was handed out is the record `State.issued`.  Values of `unique` nodes, accepted group names
    and composed names all come back from `Context.uniqueInRun`, and
    `Context.head?_issued_of_uniqueInRun` says of each of them that its key is then the head of the
    record; so the keys of any two are two entries of it. -/
theorem calls_unique (seed : UInt64) (before after : List (Nat × Node)) :
    let earlier := (r.calls before (.ofSeed seed)).2
    let later := r.calls (before ++ after) (.ofSeed seed)
    let names := (values later.1).flatMap Value.columnNames
    (∀ key ∈ earlier.ledger, key ∈ later.2.ledger) ∧ later.2.issued.Nodup ∧
      (∀ key ∈ later.2.issued, key ∈ later.2.ledger) ∧ names.Nodup ∧
      ∀ name ∈ names, Context.textKey name ∈ later.2.issued := by
  intro earlier later names
  -- the run as one step, and the calls that come after as another
  obtain ⟨new, hstep, hnames⟩ := r.calls_step (before ++ after) (.ofSeed seed)
  obtain ⟨_, hgrow, -⟩ := r.calls_step after earlier
  -- nothing was handed out before the run, so the record is what the run handed out
  have hissued : later.2.issued = new.reverse := by
    have h := hstep.issued
    rwa [State.ofSeed, List.append_nil] at h
  have hlater : later.2 = (r.calls after earlier).2 := by
    show (r.calls (before ++ after) (.ofSeed seed)).2 = _
    rw [calls_append]
  refine ⟨fun key hkey => ?_, ?_, fun key hkey => ?_, ?_, fun name hname => ?_⟩
  · rw [hlater]
    exact hgrow.kept key hkey
  · rw [hissued]
    exact (List.reverse_perm new).nodup_iff.mpr hstep.distinct
  · rw [hissued, List.mem_reverse] at hkey
    exact hstep.claimed key hkey
  · exact nodup_of_nameKeys (hnames.nodup hstep.distinct)
  · rw [hissued, List.mem_reverse]
    exact hnames.subset (List.mem_map_of_mem hname)

end Run

end SyntheticTables
