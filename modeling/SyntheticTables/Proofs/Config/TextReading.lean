/-
  The text of a configuration and the decoded document are parsed alike.

  A root is read from text like any other value, except that a tag which is wrong or repeated ends
  the reading at once (`Json.takes_root_iff`).  No configuration has such a tag, so a text is one
  exactly when the document in it is (`Node.ofText_eq_ok_iff`), and then the sorted view of this
  document is the same one.
-/
import SyntheticTables.Config.Load
import SyntheticTables.Proofs.Config.SortedReading
import SyntheticTables.Proofs.Json.Reader

namespace SyntheticTables

namespace Json

variable {cs rest : List Char}

/-- The root of a text is read like any other value. -/
theorem root_eq : root = valueWith rootElements (members rootMember []) := by
  funext cs
  unfold root valueWith
  rfl

/-- The tag of a root is a value that names a kind; lists and objects are refused at once, but they
    name no kind either. -/
theorem takes_rootTag_iff {list : Reader (List Json)} {object : Reader (List (String × Json))}
    {tag : Json} : Takes rootTag cs tag rest ↔
      Takes (valueWith list object) cs tag rest ∧ ∃ k, Kind.ofJson .document tag = .ok k := by
  rw [takes_valueWith_iff]
  constructor
  · rintro ⟨shorter, h⟩
    -- a list or an object here is refused before it is read to its end
    unfold rootTag at h
    split at h
    · cases h
    · rename_i c r hskip
      by_cases hlist : c = '['
      · rw [if_pos hlist] at h
        cases h
      · rw [if_neg hlist] at h
        by_cases hobject : c = '\x7b'
        · rw [if_pos hobject] at h
          cases h
        · rw [if_neg hobject] at h
          obtain ⟨s, hscalar, h⟩ := bind_eq_ok_iff.mp h
          split at h
          · cases h
          · rename_i k hkind
            cases h
            exact ⟨⟨c, r, hskip, Or.inr (Or.inr ⟨hlist, hobject, s.shorter, hscalar⟩)⟩, k, hkind⟩
  · rintro ⟨⟨c, r, hskip, hvalue⟩, k, hkind⟩
    -- no kind is named by a list or an object, so the value is a scalar
    rcases hvalue with ⟨-, items, -, rfl⟩ | ⟨-, ms, -, rfl⟩ | ⟨hlist, hobject, hlt, hscalar⟩
    · cases hkind
    · cases hkind
    · have hcs := length_cons_le_of_skip hskip
      refine ⟨by omega, ?_⟩
      unfold rootTag
      split
      · rename_i hnil
        cases hnil.symm.trans hskip
      · rename_i c' r' hskip'
        cases hskip.symm.trans hskip'
        rw [if_neg hlist, if_neg hobject]
        refine bind_eq_ok_iff.mpr ⟨_, hscalar, ?_⟩
        simp only [hkind]
        rfl

/-- The value of a whole text, taken apart once. -/
theorem value_maxDepth : value maxDepth = valueWith (elements (value (maxDepth - 1)) true)
    (members (.plain (value (maxDepth - 1))) []) :=
  value_succ (maxDepth - 1)

/-- A value inside the root, taken apart once; there is depth enough for it. -/
theorem value_inside : value (maxDepth - 1) = valueWith (elements (value (maxDepth - 2)) true)
    (members (.plain (value (maxDepth - 2))) []) :=
  value_succ (maxDepth - 2)

/-- The tags among members are those of a root: at most one, and it names a kind. -/
def TagsFit (seen : List String) : List (String × Json) → Prop
  | [] => True
  | (name, value) :: rest =>
    (name = "type" → name ∉ seen ∧ ∃ k, Kind.ofJson .document value = .ok k) ∧
      TagsFit (name :: seen) rest

/-- The only name that may not come twice in a root is that of the tag. -/
theorem rootMember_allow_iff {seen : List String} {name : String} :
    rootMember.allow seen name = .ok () ↔ (name = "type" → name ∉ seen) := by
  unfold rootMember
  by_cases hname : name = "type"
  · by_cases hseen : name ∈ seen
    · simp [hname, hname ▸ hseen]
    · simp [hname, hname ▸ hseen]
  · simp [hname]

/-- A member of a root is read like any other member; if it is the tag, it must be the first tag and
    name a kind.  Both readers take the same name and the same value, and the strict one only asks
    for more. -/
theorem takes_rootMember_iff {seen : List String} {name : String} {j : Json} :
    Takes (member rootMember seen) cs (name, j) rest ↔
      Takes (member (.plain (value (maxDepth - 1))) seen) cs (name, j) rest ∧
        (name = "type" → name ∉ seen ∧ ∃ k, Kind.ofJson .document j = .ok k) := by
  rw [takes_member_iff, takes_member_iff]
  -- the two readers differ at the member of this name only, where the strict one also asks for a
  -- kind
  have hvalue : ∀ {r' : List Char}, Takes (rootMember.value name) r' j rest ↔
      Takes (value (maxDepth - 1)) r' j rest ∧
        (name = "type" → ∃ k, Kind.ofJson .document j = .ok k) := by
    intro r'
    show Takes (if name = "type" then rootTag else value (maxDepth - 1)) r' j rest ↔ _
    by_cases hname : name = "type"
    · rw [if_pos hname, takes_rootTag_iff, ← value_inside]
      simp [hname]
    · rw [if_neg hname]
      simp [hname]
  constructor
  · rintro ⟨r, r', hread, hallow, hcolon, hj⟩
    obtain ⟨hj, hkind⟩ := hvalue.mp hj
    exact ⟨⟨r, r', hread, rfl, hcolon, hj⟩,
      fun hname => ⟨rootMember_allow_iff.mp hallow hname, hkind hname⟩⟩
  · rintro ⟨⟨r, r', hread, -, hcolon, hj⟩, hfits⟩
    exact ⟨r, r', hread, rootMember_allow_iff.mpr fun hname => (hfits hname).1, hcolon,
      hvalue.mpr ⟨hj, fun hname => (hfits hname).2⟩⟩

/-- The members of a root are read like those of any object, if the tags among them fit.  By
    induction on the members, for any names seen before. -/
theorem takes_rootMembers_iff {seen : List String} {ms : List (String × Json)} :
    Takes (members rootMember seen) cs ms rest ↔
      Takes (members (.plain (value (maxDepth - 1))) seen) cs ms rest ∧ TagsFit seen ms := by
  induction ms generalizing seen cs with
  | nil =>
    rw [takes_members_iff, takes_members_iff]
    simp [TagsFit]
  | cons first others ih =>
    obtain ⟨name, j⟩ := first
    rw [takes_members_iff, takes_members_iff]
    constructor
    · rintro (⟨-, hnil⟩ | ⟨start, first, mid, others', hnext, hfirst, hothers, heq⟩)
      · cases hnil
      · cases heq
        obtain ⟨hfirst, hfits⟩ := takes_rootMember_iff.mp hfirst
        obtain ⟨hothers, hfits'⟩ := ih.mp hothers
        exact ⟨Or.inr ⟨start, _, mid, _, hnext, hfirst, hothers, rfl⟩, hfits, hfits'⟩
    · rintro ⟨⟨-, hnil⟩ | ⟨start, first, mid, others', hnext, hfirst, hothers, heq⟩, hfits, hfits'⟩
      · cases hnil
      · cases heq
        exact Or.inr ⟨start, _, mid, _, hnext, takes_rootMember_iff.mpr ⟨hfirst, hfits⟩,
          ih.mpr ⟨hothers, hfits'⟩, rfl⟩

/-- The elements of a root are read like those of any list, if there is a first one and it names a
    kind.  The elements behind it are not looked at any closer. -/
theorem takes_rootElements_iff {items : List Json} :
    Takes rootElements cs items rest ↔
      Takes (elements (value (maxDepth - 1)) true) cs items rest ∧
        ∃ tag others k, items = tag :: others ∧ Kind.ofJson .document tag = .ok k := by
  rw [takes_elements_iff]
  constructor
  · rintro ⟨shorter, h⟩
    -- the first element is read as the tag, and the empty list has none
    unfold rootElements at h
    split at h
    · cases h
    · rename_i c r hskip
      by_cases hclose : c = ']'
      · rw [if_pos hclose] at h
        cases h
      · rw [if_neg hclose] at h
        obtain ⟨⟨tag, mid, hmid⟩, htag, h⟩ := bind_eq_ok_iff.mp h
        obtain ⟨⟨others, rest', hrest'⟩, hothers, h⟩ := bind_eq_ok_iff.mp h
        cases h
        obtain ⟨hvalue, k, hkind⟩ := takes_rootTag_iff.mp ⟨hmid, htag⟩
        rw [← value_inside] at hvalue
        exact ⟨⟨c, r, hskip, Or.inr ⟨hclose, tag, mid, others, hvalue, ⟨hrest', hothers⟩, rfl⟩⟩,
          tag, others, k, rfl, hkind⟩
  · rintro ⟨⟨c, r, hskip, ⟨-, -, hnil⟩ | ⟨hclose, first, mid, others', hfirst, ⟨hothers', hothers⟩,
      heq⟩⟩, tag, others, k, hitems, hkind⟩
    · cases hnil.symm.trans hitems
    · cases heq.symm.trans hitems
      rw [value_inside] at hfirst
      obtain ⟨hmid, htag⟩ := takes_rootTag_iff.mpr ⟨hfirst, k, hkind⟩
      have hcs := length_cons_le_of_skip hskip
      subst heq
      refine ⟨by omega, ?_⟩
      unfold rootElements
      split
      · rename_i hnil
        cases hnil.symm.trans hskip
      · rename_i c' r' hskip'
        cases hskip.symm.trans hskip'
        rw [if_neg hclose]
        exact bind_eq_ok_iff.mpr ⟨_, htag, bind_eq_ok_iff.mpr ⟨_, hothers, rfl⟩⟩

/-- What a root has to be for its text to be read: its tag, if it needs one, names a kind. -/
def RootFits : Json → Prop
  | .obj members => TagsFit [] members
  | .arr items => ∃ tag others k, items = tag :: others ∧ Kind.ofJson .document tag = .ok k
  | _ => True

/-- No scalar begins with a bracket or a brace, so there is no tag to look for.  The cases are the
    branches of the reader of scalars. -/
theorem rootFits_scalar {c : Char} {r : List Char} {j : Json} {shorter : rest.length < (c :: r).length}
    (h : scalar c r = .ok ⟨j, rest, shorter⟩) : RootFits j := by
  have hmap : ∀ {β : Type} {x : Except ReadError β} {f : β → Step Json (c :: r)},
      x.map f = .ok ⟨j, rest, shorter⟩ → (∀ b, RootFits (f b).value) → RootFits j := by
    intro β x f hx hf
    obtain ⟨b, -, hb⟩ := map_eq_ok_iff.mp hx
    have hfits := hf b
    rw [hb] at hfits
    exact hfits
  unfold scalar at h
  split at h
  · exact hmap h fun _ => trivial
  split at h
  · exact hmap h fun _ => trivial
  split at h
  · exact hmap h fun _ => trivial
  split at h
  · exact hmap h fun _ => trivial
  split at h
  · exact hmap h fun _ => trivial
  split at h
  · exact hmap h fun _ => trivial
  · cases h

/-- A root is read like any other value, if its tag fits.  The three cases are those of its first
    character, and a scalar has no tag that could be wrong. -/
theorem takes_root_iff {j : Json} :
    Takes root cs j rest ↔ Takes (value maxDepth) cs j rest ∧ RootFits j := by
  rw [root_eq, value_maxDepth, takes_valueWith_iff, takes_valueWith_iff]
  constructor
  · rintro ⟨c, r, hskip, ⟨hc, items, hitems, rfl⟩ | ⟨hc, ms, hms, rfl⟩ | ⟨hlist, hobject, hlt, hscalar⟩⟩
    · obtain ⟨hitems, hfits⟩ := takes_rootElements_iff.mp hitems
      exact ⟨⟨c, r, hskip, Or.inl ⟨hc, items, hitems, rfl⟩⟩, hfits⟩
    · obtain ⟨hms, hfits⟩ := takes_rootMembers_iff.mp hms
      exact ⟨⟨c, r, hskip, Or.inr (Or.inl ⟨hc, ms, hms, rfl⟩)⟩, hfits⟩
    · exact ⟨⟨c, r, hskip, Or.inr (Or.inr ⟨hlist, hobject, hlt, hscalar⟩)⟩, rootFits_scalar hscalar⟩
  · rintro ⟨⟨c, r, hskip, ⟨hc, items, hitems, rfl⟩ | ⟨hc, ms, hms, rfl⟩ |
      ⟨hlist, hobject, hscalar⟩⟩, hfits⟩
    · exact ⟨c, r, hskip, Or.inl ⟨hc, items, takes_rootElements_iff.mpr ⟨hitems, hfits⟩, rfl⟩⟩
    · exact ⟨c, r, hskip, Or.inr (Or.inl ⟨hc, ms, takes_rootMembers_iff.mpr ⟨hms, hfits⟩, rfl⟩)⟩
    · exact ⟨c, r, hskip, Or.inr (Or.inr ⟨hlist, hobject, hscalar⟩)⟩

/-- If a kind is found among the members, then their tags fit: there is one tag, and it names the
    kind.  The names read so far are generalized, because a tag among them would make the next one
    the second. -/
theorem tagsFit_of_ofMembers {ms : List (String × Json)} : ∀ {met seen k},
    Kind.ofMembers .document met ms = .ok k → ("type" ∈ seen → met.isSome) → TagsFit seen ms := by
  induction ms with
  | nil => exact fun _ _ => trivial
  | cons m rest ih =>
    intro met seen k h hmet
    obtain ⟨name, tag⟩ := m
    unfold Kind.ofMembers at h
    by_cases hname : name = "type"
    · rw [if_pos hname] at h
      -- a second tag is refused, so this is the first one and is new
      cases met with
      | some met => cases h
      | none =>
        obtain ⟨k', hkind, h⟩ := bind_eq_ok_iff.mp h
        refine ⟨fun _ => ⟨?_, k', hkind⟩, ih h fun _ => rfl⟩
        rw [hname]
        intro hseen
        cases hmet hseen
    · rw [if_neg hname] at h
      refine ⟨fun heq => absurd heq hname, ih h ?_⟩
      intro hseen
      rcases List.mem_cons.mp hseen with heq | hseen
      · exact absurd heq.symm hname
      · exact hmet hseen

/-- The document of a configuration has a tag that fits, whether it is an object or a list.  So the
    stricter reader refuses no text whose document could be read as a tree. -/
theorem rootFits_of_ofJson {j : Json} {n : Node} (h : Node.ofJson j = .ok n) : RootFits j := by
  obtain ⟨htag, hpart⟩ := seq_eq_ok_iff.mp h
  cases j with
  | obj ms =>
    obtain ⟨k, hkind⟩ := Node.checkRootTag_obj_iff.mp htag
    exact tagsFit_of_ofMembers hkind nofun
  | arr items =>
    cases items with
    | nil => cases hpart
    | cons tag others =>
      obtain ⟨k, hkind⟩ := Node.checkRootTag_arr_iff.mp htag
      exact ⟨tag, others, k, rfl, hkind⟩
  | _ => trivial

/-- Nothing but white space may follow a value. -/
theorem finish_eq_ok_iff {α : Type} {a b : α} :
    finish a rest = .ok b ↔ (skip rest).isEmpty = true ∧ a = b := by
  unfold finish
  by_cases hrest : (skip rest).isEmpty = true
  · rw [if_pos hrest]
    exact ⟨fun h => ⟨hrest, Except.ok.inj h⟩, fun h => congrArg Except.ok h.2⟩
  · rw [if_neg hrest]
    exact ⟨nofun, fun h => absurd h.1 hrest⟩

/-- A text is a document if a value can be taken from it and nothing follows. -/
theorem ofText_eq_ok_iff {text : String} {j : Json} :
    ofText text = .ok j ↔
      ∃ rest, Takes (value maxDepth) text.toList j rest ∧ (skip rest).isEmpty = true := by
  unfold ofText
  rw [bind_eq_ok_iff]
  constructor
  · rintro ⟨⟨v, rest, hlt⟩, hvalue, hfinish⟩
    obtain ⟨hrest, rfl⟩ := finish_eq_ok_iff.mp hfinish
    exact ⟨rest, ⟨hlt, hvalue⟩, hrest⟩
  · rintro ⟨rest, ⟨hlt, hvalue⟩, hrest⟩
    exact ⟨_, hvalue, finish_eq_ok_iff.mpr ⟨hrest, rfl⟩⟩

end Json

open Json

/-- A text is a configuration when the document that stands in it is one.  One direction drops the
    condition on the tag, the other finds it fulfilled. -/
theorem Node.ofText_eq_ok_iff {text : String} {n : Node} :
    Node.ofText text = .ok n ↔ ∃ j, Json.ofText text = .ok j ∧ Node.ofJson j = .ok n := by
  unfold Node.ofText
  rw [bind_eq_ok_iff]
  constructor
  · rintro ⟨⟨j, rest, hlt⟩, hroot, h⟩
    split at h
    · cases h
    · rename_i n' hn
      obtain ⟨hrest, rfl⟩ := finish_eq_ok_iff.mp h
      obtain ⟨hvalue, -⟩ := takes_root_iff.mp ⟨hlt, hroot⟩
      exact ⟨j, Json.ofText_eq_ok_iff.mpr ⟨rest, hvalue, hrest⟩, hn⟩
  · rintro ⟨j, htext, hn⟩
    obtain ⟨rest, hvalue, hrest⟩ := Json.ofText_eq_ok_iff.mp htext
    obtain ⟨hlt, hroot⟩ := takes_root_iff.mpr ⟨hvalue, rootFits_of_ofJson hn⟩
    refine ⟨_, hroot, ?_⟩
    simp only [hn]
    exact finish_eq_ok_iff.mpr ⟨hrest, rfl⟩

/-! ## Parsing -/

namespace Node

variable {text : String}

/-- A text is parsed when it can be decoded and the result passes its check. -/
theorem parseJson_eq_ok_iff {c : Node} :
    parseJson text = .ok c ↔ ∃ n, Node.ofText text = .ok n ∧ n.checked = .ok c := by
  unfold parseJson
  simp only [bind_eq_ok_iff, mapError_eq_ok_iff]

/-- A text is invalid when it can be decoded and the result does not pass its check; the error is
    that of the check. -/
theorem parseJson_eq_invalid_iff {e : CheckError} :
    parseJson text = .error (.invalid e) ↔
      ∃ n, Node.ofText text = .ok n ∧ n.checked = .error (.invalid e) := by
  unfold parseJson
  simp [bind_eq_error_iff, mapError_eq_ok_iff, mapError_eq_error_iff]

/-- A document is parsed when it can be decoded and the result passes its check. -/
theorem parseValue_eq_ok_iff {j : Json} {c : Node} :
    parseValue j = .ok c ↔ ∃ n, Node.ofJson j = .ok n ∧ n.checked = .ok c := by
  unfold parseValue
  simp only [bind_eq_ok_iff, mapError_eq_ok_iff]

/-- A document is invalid when it can be decoded and the result does not pass its check. -/
theorem parseValue_eq_invalid_iff {j : Json} {e : CheckError} :
    parseValue j = .error (.invalid e) ↔
      ∃ n, Node.ofJson j = .ok n ∧ n.checked = .error (.invalid e) := by
  unfold parseValue
  simp [bind_eq_error_iff, mapError_eq_ok_iff, mapError_eq_error_iff]

/-- A text without repeated names is a configuration when the decoded document is the same one. -/
theorem ofText_eq_ok_iff_sorted (hdistinct : ∀ j, Json.ofText text = .ok j → j.NoRepeats)
    {n : Node} : Node.ofText text = .ok n ↔
      ∃ j, Json.ofText text = .ok j ∧ Node.ofJson j.sorted = .ok n := by
  rw [ofText_eq_ok_iff]
  refine exists_congr fun j => and_congr_right fun hj => ?_
  exact ofJson_sorted (hdistinct j hj) n

/-- A text without repeated names is parsed like the decoded document, in which the members stand in
    ascending order: either gives the same configuration, and if the check refuses it, for the same
    reason. -/
theorem parseJson_iff_parseValue (text : String)
    (hdistinct : ∀ j, Json.ofText text = .ok j → j.NoRepeats) :
    (∀ c, parseJson text = .ok c ↔
      ∃ j, Json.ofText text = .ok j ∧ parseValue j.sorted = .ok c) ∧
    ∀ e, parseJson text = .error (.invalid e) ↔
      ∃ j, Json.ofText text = .ok j ∧ parseValue j.sorted = .error (.invalid e) := by
  constructor
  · intro c
    simp only [parseJson_eq_ok_iff, parseValue_eq_ok_iff, ofText_eq_ok_iff_sorted hdistinct]
    constructor
    · rintro ⟨n, ⟨j, hj, hn⟩, hchecked⟩
      exact ⟨j, hj, n, hn, hchecked⟩
    · rintro ⟨j, hj, n, hn, hchecked⟩
      exact ⟨n, ⟨j, hj, hn⟩, hchecked⟩
  · intro e
    simp only [parseJson_eq_invalid_iff, parseValue_eq_invalid_iff,
      ofText_eq_ok_iff_sorted hdistinct]
    constructor
    · rintro ⟨n, ⟨j, hj, hn⟩, hchecked⟩
      exact ⟨j, hj, n, hn, hchecked⟩
    · rintro ⟨j, hj, n, hn, hchecked⟩
      exact ⟨n, ⟨j, hj, hn⟩, hchecked⟩

/-- A schema with its tag at the end, a parameter under its other name, a node given as a list, and
    the other parameters left out. -/
def shuffledText : String :=
  "\x7b\"n_rows_range\": [2, 4], \"fields\": [\x7b\"field_type\": [\"string_field_type\"], "
    ++ "\"type\": \"field_group\"\x7d], \"type\": \"table_schema\"\x7d"

/-- An integer node whose range has its ends exchanged: from 5 to 1. -/
def invertedText : String := "\x7b\"max\": 1, \"type\": \"integer\", \"min\": 5\x7d"

/-- The condition on repeated names in a form that can be decided: there is at most one document in
    a text. -/
theorem noRepeats_of_all (h : (Json.ofText text).toOption.all (fun j => decide j.NoRepeats) = true) :
    ∀ j, Json.ofText text = .ok j → j.NoRepeats := by
  intro j hj
  rw [hj] at h
  exact of_decide_eq_true h

/-- The first text is accepted, and its document with the members in ascending order is parsed as
    the same configuration; the second one is decoded but refused by the check, and its document is
    refused for the same reason. -/
theorem parseJson_iff_parseValue_shuffled :
    (∃ c j, parseJson shuffledText = .ok c ∧ Json.ofText shuffledText = .ok j ∧
      parseValue j.sorted = .ok c) ∧
    ∃ e j, parseJson invertedText = .error (.invalid e) ∧ Json.ofText invertedText = .ok j ∧
      parseValue j.sorted = .error (.invalid e) := by
  constructor
  -- accepted by evaluation; the document then comes from the theorem
  · have hdistinct : ∀ j, Json.ofText shuffledText = .ok j → j.NoRepeats :=
      noRepeats_of_all (by decide +kernel)
    have hparsed : (parseJson shuffledText).toBool = true := by decide +kernel
    cases hc : parseJson shuffledText with
    | error e =>
      rw [hc] at hparsed
      cases hparsed
    | ok c =>
      obtain ⟨j, hj, hvalue⟩ := ((parseJson_iff_parseValue shuffledText hdistinct).1 c).mp hc
      exact ⟨c, j, rfl, hj, hvalue⟩
  -- it is read as a tree but not accepted, so what refuses it is the check
  · have hdistinct : ∀ j, Json.ofText invertedText = .ok j → j.NoRepeats :=
      noRepeats_of_all (by decide +kernel)
    have hread : (Node.ofText invertedText).toBool = true := by decide +kernel
    have hparsed : (parseJson invertedText).toBool = false := by decide +kernel
    cases hn : Node.ofText invertedText with
    | error e =>
      rw [hn] at hread
      cases hread
    | ok n =>
      cases hcheck : n.check with
      | ok =>
        have hc : parseJson invertedText = .ok n :=
          parseJson_eq_ok_iff.mpr ⟨n, hn, by rw [checked, hcheck]⟩
        rw [hc] at hparsed
        cases hparsed
      | error e =>
        have he : parseJson invertedText = .error (.invalid e) :=
          parseJson_eq_invalid_iff.mpr ⟨n, hn, by rw [checked, hcheck]⟩
        obtain ⟨j, hj, hvalue⟩ := ((parseJson_iff_parseValue invertedText hdistinct).2 e).mp he
        exact ⟨e, j, he, hj, hvalue⟩

end Node

end SyntheticTables
