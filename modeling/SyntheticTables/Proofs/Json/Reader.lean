/-
  What a reader takes from the front of a text.

  `Takes` says which value a reader takes and what it leaves; that this is less than before is kept
  apart.  Objects and lists are taken apart into members and elements (`takes_members_iff`,
  `takes_elements_iff`), and a value into what its first character says (`takes_valueWith_iff`), so
  that two readers can be compared part by part.
-/
import SyntheticTables.Json.Reader
import SyntheticTables.Proofs.Checks

namespace SyntheticTables.Json

/-- The reader takes a value and leaves the rest.  That the rest is shorter is part of the reader's
    type and is hidden here. -/
def Takes {α : Type} (read : Reader α) (cs : List Char) (a : α) (rest : List Char) : Prop :=
  ∃ shorter, read cs = .ok ⟨a, rest, shorter⟩

variable {α β : Type} {cs rest : List Char}

/-! ## Steps seen from further up -/

/-- Steps that are read one in another are compared by their values and what they leave; how much
    was read is a proof, and proofs are equal anyway. -/
theorem map_within_eq_ok_iff {input longer : List Char} {x : Except ReadError (Step α input)}
    {f : α → β} {h : input.length ≤ longer.length} {b : β} {shorter : rest.length < longer.length} :
    (x.map fun s => (s.map f).within longer h) = .ok ⟨b, rest, shorter⟩ ↔
      ∃ a shorter', x = .ok ⟨a, rest, shorter'⟩ ∧ f a = b := by
  cases x with
  | error e => exact ⟨nofun, nofun⟩
  | ok s =>
    obtain ⟨a, r, hr⟩ := s
    constructor
    · intro hstep
      cases hstep
      exact ⟨a, hr, rfl, rfl⟩
    · rintro ⟨a', hr', hstep, rfl⟩
      cases hstep
      rfl

/-- The same for steps whose values are left as they are. -/
theorem within_eq_ok_iff {input longer : List Char} {x : Except ReadError (Step α input)}
    {h : input.length ≤ longer.length} {a : α} {shorter : rest.length < longer.length} :
    (x.map fun s => s.within longer h) = .ok ⟨a, rest, shorter⟩ ↔
      ∃ shorter', x = .ok ⟨a, rest, shorter'⟩ := by
  cases x with
  | error e => exact ⟨nofun, nofun⟩
  | ok s =>
    obtain ⟨a', r, hr⟩ := s
    constructor
    · intro hstep
      cases hstep
      exact ⟨hr, rfl⟩
    · rintro ⟨hr', hstep⟩
      cases hstep
      rfl

/-! ## Members and elements -/

/-- Where the name of the next member begins, behind its opening quote. -/
def NextMember (seen : List String) (cs start : List Char) : Prop :=
  if seen.isEmpty then skip cs = '"' :: start
  else ∃ r, skip cs = ',' :: r ∧ skip r = '"' :: start

variable {m : MemberReader α} {seen : List String}

/-- A member is its name up to the closing quote, which must be allowed, a colon, and its value.
    Any space is passed over in front of the colon, and what may follow it is left to the reader of
    the value. -/
theorem takes_member_iff {name : String} {a : α} :
    Takes (member m seen) cs (name, a) rest ↔ ∃ r r', Takes (textBody []) cs name r ∧
      m.allow seen name = .ok () ∧ skip r = ':' :: r' ∧ Takes (m.value name) r' a rest := by
  constructor
  · rintro ⟨shorter, h⟩
    unfold member at h
    obtain ⟨⟨read, r, hr⟩, hname, h⟩ := bind_eq_ok_iff.mp h
    obtain ⟨hallow, h⟩ := seq_eq_ok_iff.mp h
    split at h
    · cases h
    · rename_i c r' hskip
      -- between the name and the value there is a colon, and nothing else will do
      by_cases hc : c = ':'
      · rw [if_pos hc] at h
        obtain ⟨⟨v, r'', hr''⟩, hv, h⟩ := bind_eq_ok_iff.mp h
        cases h
        exact ⟨r, r', ⟨hr, hname⟩, hallow, hc ▸ hskip, hr'', hv⟩
      · rw [if_neg hc] at h
        cases h
  · rintro ⟨r, r', ⟨hr, hname⟩, hallow, hskip, hr', hv⟩
    refine ⟨?_, ?_⟩
    · have := length_lt_of_skip hskip
      omega
    · unfold member
      refine bind_eq_ok_iff.mpr ⟨_, hname, seq_eq_ok_iff.mpr ⟨hallow, ?_⟩⟩
      split
      · rename_i hnil
        rw [show skip r = [] from hnil] at hskip
        cases hskip
      · rename_i c r'' hskip'
        cases hskip.symm.trans hskip'
        rw [if_pos rfl]
        exact bind_eq_ok_iff.mpr ⟨_, hv, rfl⟩

/-- The first member begins with the quote of its name. -/
theorem nextMember_iff_of_first {start : List Char} (hseen : seen.isEmpty = true) :
    NextMember seen cs start ↔ skip cs = '"' :: start := by
  rw [NextMember, if_pos hseen]

/-- A later member begins with the quote of its name, behind a comma. -/
theorem nextMember_iff_of_later {start : List Char} (hseen : ¬ seen.isEmpty = true) :
    NextMember seen cs start ↔ ∃ r, skip cs = ',' :: r ∧ skip r = '"' :: start := by
  rw [NextMember, if_neg hseen]

/-- A member begins behind at least one character. -/
theorem length_lt_of_nextMember {start : List Char} (h : NextMember seen cs start) :
    start.length < cs.length := by
  by_cases hseen : seen.isEmpty = true
  · exact length_lt_of_skip ((nextMember_iff_of_first hseen).mp h)
  · obtain ⟨r, hcomma, hquote⟩ := (nextMember_iff_of_later hseen).mp h
    exact Nat.lt_trans (length_lt_of_skip hquote) (length_lt_of_skip hcomma)

/-- At the closing brace the members end. -/
theorem members_of_close (h : skip cs = '\x7d' :: rest) :
    members m seen cs = .ok ⟨[], rest, length_lt_of_skip h⟩ := by
  unfold members
  split
  · rename_i hnil
    cases hnil.symm.trans h
  · rename_i hskip
    cases h.symm.trans hskip
    rfl

/-- Where a member begins, it is read before the others.  This is the one equation needed of the
    reader there: how it came to the member, behind a comma or not, does not show in it. -/
theorem members_of_next {start : List Char} (hnext : NextMember seen cs start) :
    members m seen cs = member m seen start >>= fun s =>
      (members m (s.value.1 :: seen) s.rest).map fun t => (t.map (s.value :: ·)).within cs
        (Nat.le_of_lt (Nat.lt_trans s.shorter (length_lt_of_nextMember hnext))) := by
  rw [members]
  -- the first member begins at once, a later one behind a comma
  by_cases hseen : seen.isEmpty = true
  · have hquote := (nextMember_iff_of_first hseen).mp hnext
    split
    · rename_i hnil
      cases hnil.symm.trans hquote
    · rename_i hskip
      cases hquote.symm.trans hskip
      rw [if_neg (by decide), if_neg (by simp), if_pos hseen, if_pos rfl]
      cases member m seen start with
      | _ => rfl
  · obtain ⟨r, hcomma, hquote⟩ := (nextMember_iff_of_later hseen).mp hnext
    split
    · rename_i hnil
      cases hnil.symm.trans hcomma
    · rename_i hskip
      cases hcomma.symm.trans hskip
      rw [if_neg (by decide), if_pos (by simp [hseen])]
      split
      · rename_i hnil
        cases hnil.symm.trans hquote
      · rename_i hskip'
        cases hquote.symm.trans hskip'
        rw [if_pos rfl]
        cases member m seen start with
        | _ => rfl

/-- Members that can be read end at once or begin with one of them.  The case analysis is that of
    the reader, every other branch of which is an error. -/
theorem begin_of_members {s : Step (List (String × α)) cs} (h : members m seen cs = .ok s) :
    skip cs = '\x7d' :: s.rest ∨ ∃ start, NextMember seen cs start := by
  unfold members at h
  split at h
  · cases h
  · rename_i c r hskip
    -- the cases are the reader's own, character by character
    by_cases hclose : c = '\x7d'
    · rw [if_pos hclose] at h
      cases h
      exact Or.inl (hclose ▸ hskip)
    · right
      rw [if_neg hclose] at h
      by_cases hseen : seen.isEmpty = true
      · rw [if_neg (by simp [hseen]), if_pos hseen] at h
        by_cases hquote : c = '"'
        · exact ⟨r, (nextMember_iff_of_first hseen).mpr (hquote ▸ hskip)⟩
        · rw [if_neg hquote] at h
          cases h
      · by_cases hcomma : c = ','
        · rw [if_pos (by simp [hseen, hcomma])] at h
          split at h
          · cases h
          · rename_i d r' hskip'
            by_cases hquote : d = '"'
            · exact ⟨r', (nextMember_iff_of_later hseen).mpr
                ⟨r, hcomma ▸ hskip, hquote ▸ hskip'⟩⟩
            · rw [if_neg hquote] at h
              split at h
              · cases h
              · cases h
        · rw [if_neg (by simp [hcomma]), if_neg hseen] at h
          cases h

/-- An object ends, or another member comes before the others.  This is all that the reader of
    members does, so it can be compared with another one by induction. -/
theorem takes_members_iff {ms : List (String × α)} :
    Takes (members m seen) cs ms rest ↔ (skip cs = '\x7d' :: rest ∧ ms = []) ∨
      ∃ start first mid others, NextMember seen cs start ∧ Takes (member m seen) start first mid ∧
        Takes (members m (first.1 :: seen)) mid others rest ∧ ms = first :: others := by
  constructor
  · rintro ⟨shorter, h⟩
    rcases begin_of_members h with hclose | ⟨start, hnext⟩
    · rw [members_of_close hclose] at h
      cases h
      exact Or.inl ⟨hclose, rfl⟩
    · rw [members_of_next hnext] at h
      obtain ⟨s, hfirst, hothers⟩ := bind_eq_ok_iff.mp h
      obtain ⟨others, shorter', hothers, heq⟩ := map_within_eq_ok_iff.mp hothers
      exact Or.inr ⟨start, s.value, s.rest, others, hnext, ⟨s.shorter, hfirst⟩,
        ⟨shorter', hothers⟩, heq.symm⟩
  · rintro (⟨hclose, rfl⟩ |
      ⟨start, first, mid, others, hnext, ⟨hmid, hfirst⟩, ⟨hrest, hothers⟩, rfl⟩)
    · exact ⟨length_lt_of_skip hclose, members_of_close hclose⟩
    · have hstart := length_lt_of_nextMember hnext
      refine ⟨by omega, ?_⟩
      rw [members_of_next hnext]
      exact bind_eq_ok_iff.mpr ⟨_, hfirst, map_within_eq_ok_iff.mpr ⟨others, hrest, hothers, rfl⟩⟩

section Elements

variable {item : Reader α}

/-- At the closing bracket the elements end. -/
theorem elements_of_close {first : Bool} (h : skip cs = ']' :: rest) :
    elements item first cs = .ok ⟨[], rest, length_lt_of_skip h⟩ := by
  unfold elements
  split
  · rename_i hnil
    cases hnil.symm.trans h
  · rename_i hskip
    cases h.symm.trans hskip
    rfl

/-- The first element is read before the others.  What does not close the list must be an element,
    also a comma, on which its reader will fail. -/
theorem elements_of_item {c : Char} {r : List Char} (h : skip cs = c :: r) (hc : c ≠ ']') :
    elements item true cs = item (c :: r) >>= fun s =>
      (elements item false s.rest).map fun t => (t.map (s.value :: ·)).within cs
        (Nat.le_of_lt (Nat.lt_of_lt_of_le s.shorter (length_cons_le_of_skip h))) := by
  rw [elements]
  split
  · rename_i hnil
    cases hnil.symm.trans h
  · rename_i hskip
    cases h.symm.trans hskip
    rw [if_neg hc, if_neg (by simp), if_pos rfl]
    cases item (c :: r) with
    | _ => rfl

/-- A list is empty, or its first element comes before the others.  The others are read with the
    flag down, because a comma has to come in front of each of them. -/
theorem takes_elements_iff {items : List α} :
    Takes (elements item true) cs items rest ↔ ∃ c r, skip cs = c :: r ∧
      ((c = ']' ∧ rest = r ∧ items = []) ∨ (c ≠ ']' ∧ ∃ first mid others,
        Takes item (c :: r) first mid ∧ Takes (elements item false) mid others rest ∧
        items = first :: others)) := by
  constructor
  · rintro ⟨shorter, h⟩
    obtain ⟨c, r, hskip⟩ : ∃ c r, skip cs = c :: r := by
      unfold elements at h
      split at h
      · cases h
      · exact ⟨_, _, ‹_›⟩
    refine ⟨c, r, hskip, ?_⟩
    -- a bracket at once closes an empty list
    by_cases hc : c = ']'
    · subst hc
      rw [elements_of_close hskip] at h
      cases h
      exact Or.inl ⟨rfl, rfl, rfl⟩
    · rw [elements_of_item hskip hc] at h
      obtain ⟨s, hfirst, hothers⟩ := bind_eq_ok_iff.mp h
      obtain ⟨others, shorter', hothers, heq⟩ := map_within_eq_ok_iff.mp hothers
      exact Or.inr ⟨hc, s.value, s.rest, others, ⟨s.shorter, hfirst⟩, ⟨shorter', hothers⟩,
        heq.symm⟩
  · rintro ⟨c, r, hskip, ⟨rfl, rfl, rfl⟩ |
      ⟨hc, first, mid, others, ⟨hmid, hfirst⟩, ⟨hrest, hothers⟩, rfl⟩⟩
    · exact ⟨length_lt_of_skip hskip, elements_of_close hskip⟩
    · have hcs := length_cons_le_of_skip hskip
      refine ⟨by omega, ?_⟩
      rw [elements_of_item hskip hc]
      exact bind_eq_ok_iff.mpr ⟨_, hfirst, map_within_eq_ok_iff.mpr ⟨others, hrest, hothers, rfl⟩⟩

end Elements

/-! ## Values -/

/-- Reads a value; how lists and objects go on behind their brackets is given from outside, so that
    the recursion can be cut at any depth. -/
def valueWith (list : Reader (List Json)) (object : Reader (List (String × Json))) : Reader Json :=
  fun cs =>
    match h : skip cs with
    | [] => fail .endInValue
    | c :: r =>
      if c = '[' then (list r).map fun s => (s.map .arr).within cs (length_le_of_skip h)
      else if c = '\x7b' then (object r).map fun s => (s.map .obj).within cs (length_le_of_skip h)
      else (scalar c r).map fun s => s.within cs (length_cons_le_of_skip h)

/-- A value at some depth has its parts at the depth below. -/
theorem value_succ (depth : Nat) : value (depth + 1)
    = valueWith (elements (value depth) true) (members (.plain (value depth)) []) := by
  funext cs
  unfold value valueWith
  rfl

/-- A value is a list, an object or a scalar, as its first character says.  The readers of lists and
    objects are arguments, so the plain reader of values and the strict one of roots are both
    covered. -/
theorem takes_valueWith_iff {list : Reader (List Json)} {object : Reader (List (String × Json))}
    {j : Json} : Takes (valueWith list object) cs j rest ↔ ∃ c r, skip cs = c :: r ∧
      ((c = '[' ∧ ∃ items, Takes list r items rest ∧ j = .arr items) ∨
      (c = '\x7b' ∧ ∃ ms, Takes object r ms rest ∧ j = .obj ms) ∨
      (c ≠ '[' ∧ c ≠ '\x7b' ∧ ∃ shorter, scalar c r = .ok ⟨j, rest, shorter⟩)) := by
  constructor
  · rintro ⟨shorter, h⟩
    unfold valueWith at h
    split at h
    · cases h
    · rename_i c r hskip
      refine ⟨c, r, hskip, ?_⟩
      -- the first character decides: a list, an object, or else a scalar
      by_cases hlist : c = '['
      · rw [if_pos hlist] at h
        obtain ⟨items, shorter', hitems, heq⟩ := map_within_eq_ok_iff.mp h
        exact Or.inl ⟨hlist, items, ⟨shorter', hitems⟩, heq.symm⟩
      · rw [if_neg hlist] at h
        by_cases hobject : c = '\x7b'
        · rw [if_pos hobject] at h
          obtain ⟨ms, shorter', hms, heq⟩ := map_within_eq_ok_iff.mp h
          exact Or.inr (Or.inl ⟨hobject, ms, ⟨shorter', hms⟩, heq.symm⟩)
        · rw [if_neg hobject] at h
          exact Or.inr (Or.inr ⟨hlist, hobject, within_eq_ok_iff.mp h⟩)
  · rintro ⟨c, r, hskip, hvalue⟩
    have hr := length_lt_of_skip hskip
    have hcs := length_cons_le_of_skip hskip
    -- something was read in any case, which the step has to say
    have hlonger : rest.length < cs.length := by
      rcases hvalue with ⟨-, _, ⟨hlt, -⟩, -⟩ | ⟨-, _, ⟨hlt, -⟩, -⟩ | ⟨-, -, hlt, -⟩
      · omega
      · omega
      · omega
    refine ⟨hlonger, ?_⟩
    unfold valueWith
    split
    · rename_i hnil
      cases hnil.symm.trans hskip
    · rename_i c' r' hskip'
      cases hskip.symm.trans hskip'
      rcases hvalue with ⟨rfl, items, ⟨hlt, hitems⟩, rfl⟩ | ⟨rfl, ms, ⟨hlt, hms⟩, rfl⟩ |
        ⟨hlist, hobject, hscalar⟩
      · rw [if_pos rfl]
        exact map_within_eq_ok_iff.mpr ⟨items, hlt, hitems, rfl⟩
      · rw [if_neg (by decide), if_pos rfl]
        exact map_within_eq_ok_iff.mpr ⟨ms, hlt, hms, rfl⟩
      · rw [if_neg hlist, if_neg hobject]
        exact within_eq_ok_iff.mpr hscalar

end SyntheticTables.Json
