/-
  The text of a finite float determines the float.

  Whatever layout is chosen, a text spells a number in one way: digits, then a point with digits
  behind it, then an exponent with its sign (`Spelling`).  The reader of numerals gives back the
  number a text spells (`spelled?_chars`), and each of the four forms a layout can choose spells the
  decimal it was made of (`spells_scaledText`).  Since that decimal rounds to the float, and to no
  other float of its sign, equal texts come from equal floats.
-/
import SyntheticTables.Proofs.Decimal.Place
import SyntheticTables.Proofs.Text.Integer
import SyntheticTables.Decimal.Layout
import SyntheticTables.Decimal.Reading

namespace SyntheticTables.Decimal

/-- The number a numeral stands for, as a rational. -/
def Spelled.exact (s : Spelled) : ℚ := s.significand * 10 ^ s.exponent

/-! ## Spellings -/

/-- Digits, digits behind a point, and an exponent.  There are digits before the point, and nothing
    else stands in the place of digits. -/
structure Spelling where
  whole : List Char
  fraction : List Char
  exponent : Option Int
  nonempty : whole ≠ []
  wholeDigits : ∀ c ∈ whole, c.isDigit = true
  fractionDigits : ∀ c ∈ fraction, c.isDigit = true

namespace Spelling

/-- An exponent is written behind its mark, always with a sign. -/
def exponentChars : Option Int → List Char
  | none => []
  | some x => 'e' :: (if x < 0 then '-' else '+') :: Nat.toDigits 10 x.natAbs

/-- What stands behind the digits before the point. -/
def tail (p : Spelling) : List Char :=
  (if p.fraction = [] then [] else '.' :: p.fraction) ++ exponentChars p.exponent

/-- The spelling as a text; without digits behind it there is no point. -/
def chars (p : Spelling) : List Char := p.whole ++ p.tail

/-- The number that is spelled. -/
def value (p : Spelling) : ℚ :=
  Nat.ofDigitChars 10 (p.whole ++ p.fraction) 0 * 10 ^ (p.exponent.getD 0 - p.fraction.length)

/-- An exponent is read back from what is written for it; where nothing is written it is zero. -/
theorem exponent?_exponentChars (x : Option Int) : exponent? (exponentChars x) = some (x.getD 0) := by
  cases x with
  | none => rfl
  | some x =>
    show Text.int? ((if x < 0 then '-' else '+') :: Nat.toDigits 10 x.natAbs) = some x
    by_cases hx : x < 0
    · rw [if_pos hx, Text.int?_minus, show (-(x.natAbs : Int)) = x by omega]
    · rw [if_neg hx, Text.int?_plus, show (x.natAbs : Int) = x by omega]

/-- No digit begins what stands behind the digits. -/
theorem split_exponentChars (x : Option Int) :
    (exponentChars x).takeWhile Char.isDigit = []
      ∧ (exponentChars x).dropWhile Char.isDigit = exponentChars x := by
  cases x <;> simp [exponentChars]

/-- The reader takes a spelling apart where it was put together, and gives the number that is
    spelled.  Digits end at the point or at the mark of the exponent, neither of which is a
    digit. -/
theorem spelled?_chars (p : Spelling) : ∃ t, spelled? p.chars = some t ∧ t.exact = p.value := by
  obtain ⟨whole, fraction, x, hne, hwhole, hfraction⟩ := p
  have hnat : Text.nat? 10 (whole ++ fraction)
      = some (Nat.ofDigitChars 10 (whole ++ fraction) 0) := by
    refine Text.nat?_digits (by simp [hne]) fun c hc => ?_
    rcases List.mem_append.mp hc with hc | hc
    · exact hwhole c hc
    · exact hfraction c hc
  have hexponent := exponent?_exponentChars x
  obtain ⟨htake, hdrop⟩ := split_exponentChars x
  refine ⟨⟨Nat.ofDigitChars 10 (whole ++ fraction) 0, x.getD 0 - fraction.length,
    whole.length + fraction.length⟩, ?_, rfl⟩
  -- without a point the reader goes straight on to the exponent
  cases fraction with
  | nil =>
    have hdigits : (whole ++ exponentChars x).takeWhile Char.isDigit = whole := by
      rw [List.takeWhile_append_of_pos hwhole, htake, List.append_nil]
    have hrest : (whole ++ exponentChars x).dropWhile Char.isDigit = exponentChars x := by
      rw [List.dropWhile_append_of_pos hwhole, hdrop]
    show spelled? (whole ++ exponentChars x) = _
    rw [List.append_nil] at hnat
    rw [spelled?, hdigits, hrest]
    split
    rename_i fraction rest hsplit
    -- an exponent is no point
    have hpair : (([] : List Char), exponentChars x) = (fraction, rest) := by
      refine Eq.trans ?_ hsplit
      cases x <;> rfl
    cases hpair
    rw [List.append_nil, hnat, hexponent]
  | cons c rest =>
    have hpoint : ('.' :: (c :: rest ++ exponentChars x)).takeWhile Char.isDigit = []
        ∧ ('.' :: (c :: rest ++ exponentChars x)).dropWhile Char.isDigit
          = '.' :: (c :: rest ++ exponentChars x) := by
      constructor <;> rfl
    show spelled? (whole ++ '.' :: (c :: rest ++ exponentChars x)) = _
    rw [spelled?, List.takeWhile_append_of_pos hwhole, List.dropWhile_append_of_pos hwhole,
      hpoint.1, hpoint.2, List.append_nil]
    simp only [List.takeWhile_append_of_pos hfraction, List.dropWhile_append_of_pos hfraction, htake,
      hdrop, List.append_nil, hnat, hexponent]

end Spelling

/-- A text that spells a number, in one way or another. -/
def Spells (cs : List Char) (r : ℚ) : Prop := ∃ p : Spelling, p.chars = cs ∧ p.value = r

/-- No text spells two numbers, because the reader gives both. -/
theorem Spells.unique {cs : List Char} {r r' : ℚ} (h : Spells cs r) (h' : Spells cs r') : r = r' := by
  obtain ⟨p, hcs, rfl⟩ := h
  obtain ⟨p', hcs', rfl⟩ := h'
  obtain ⟨t, ht, hvalue⟩ := p.spelled?_chars
  obtain ⟨t', ht', hvalue'⟩ := p'.spelled?_chars
  rw [hcs] at ht
  rw [hcs', ht] at ht'
  cases ht'
  exact hvalue.symm.trans hvalue'

/-- A spelling begins with a digit. -/
theorem Spells.head {cs : List Char} {r : ℚ} (h : Spells cs r) :
    ∃ c rest, cs = c :: rest ∧ c.isDigit = true := by
  obtain ⟨p, rfl, -⟩ := h
  cases hcs : p.whole with
  | nil => exact absurd hcs p.nonempty
  | cons c rest =>
    refine ⟨c, rest ++ p.tail, ?_, p.wholeDigits c (hcs ▸ List.mem_cons_self)⟩
    rw [Spelling.chars, hcs, List.cons_append]

/-- Besides digits, a spelling has a point and what belongs to an exponent.  Numbers are told apart
    from other parts of a document by this. -/
theorem Spells.mem {cs : List Char} {r : ℚ} (h : Spells cs r) {c : Char} (hc : c ∈ cs) :
    c.isDigit = true ∨ c ∈ ['.', 'e', '-', '+'] := by
  obtain ⟨⟨whole, fraction, x, _, hwhole, hfraction⟩, rfl, -⟩ := h
  simp only [Spelling.chars, Spelling.tail, List.mem_append] at hc
  -- the part before the point, the point with what follows, and the exponent
  rcases hc with hc | hc | hc
  · exact .inl (hwhole c hc)
  · split at hc
    · cases hc
    · rcases List.mem_cons.mp hc with rfl | hc
      · exact .inr (by decide)
      · exact .inl (hfraction c hc)
  · cases x with
    | none => cases hc
    | some x =>
      simp only [Spelling.exponentChars, List.mem_cons] at hc
      rcases hc with rfl | rfl | hc
      · exact .inr (by decide)
      · right
        split <;> decide
      · exact .inl (Text.isDigit_toDigits hc)

/-! ## The forms of a decimal -/

/-- A natural number is written in its digits. -/
theorem toList_toString (n : Nat) : (toString n).toList = Nat.toDigits 10 n := Nat.toList_repr

/-- Zeros are written as such. -/
theorem toList_zeros (n : Nat) : (zeros n).toList = List.replicate n '0' := String.toList_ofList

/-- A zero is a digit. -/
theorem isDigit_zeros {n : Nat} {c : Char} (h : c ∈ List.replicate n '0') : c.isDigit = true := by
  rw [List.eq_of_mem_replicate h]
  rfl

namespace Scaled

/-- The digits as they are written. -/
def chars (s : Scaled) : List Char := Nat.toDigits 10 s.digits

variable (s : Scaled)

/-- A decimal has at least one digit. -/
theorem chars_ne_nil : s.chars ≠ [] := Nat.toDigits_ne_nil

theorem toList_digits : (toString s.digits).toList = s.chars := toList_toString s.digits

theorem length_digits : (toString s.digits).length = s.chars.length := by
  rw [← String.length_toList, toList_digits]

/-- The digits are read as the number they are of. -/
theorem ofDigitChars_chars : Nat.ofDigitChars 10 s.chars 0 = s.digits :=
  Nat.ofDigitChars_ten_toDigits

variable {s}

/-- They are digits indeed. -/
theorem isDigit_chars {c : Char} (h : c ∈ s.chars) : c.isDigit = true := Text.isDigit_toDigits h

end Scaled

section Forms

variable (l : Layout) (s : Scaled)

/-- Zeros behind the digits make up a whole number when the exponent is not negative.  A layout that
    keeps points writes a further zero behind a point, which changes no value. -/
theorem spells_whole (h : 0 ≤ s.exponent) : Spells (l.plainText s).toList s.value := by
  obtain ⟨k, hk⟩ := Int.eq_ofNat_of_zero_le h
  refine ⟨⟨s.chars ++ List.replicate k '0', if l.keepsPoint then ['0'] else [], none,
    ?_, ?_, ?_⟩, ?_, ?_⟩
  · simp [s.chars_ne_nil]
  · intro c hc
    rcases List.mem_append.mp hc with hc | hc
    · exact Scaled.isDigit_chars hc
    · exact isDigit_zeros hc
  · intro c hc
    split at hc
    · rw [List.mem_singleton.mp hc]
      rfl
    · cases hc
  · rw [Layout.plainText, if_pos h, hk, Int.toNat_natCast]
    -- a layout that keeps points adds a zero behind one, which changes no value
    cases l.keepsPoint <;>
      simp [Spelling.chars, Spelling.tail, Spelling.exponentChars, toList_zeros, Scaled.chars]
  · have hdigits : Nat.ofDigitChars 10 (s.chars ++ List.replicate k '0') 0 = 10 ^ k * s.digits := by
      rw [Nat.ofDigitChars_append, s.ofDigitChars_chars, Nat.ofDigitChars_replicate_zero]
    rw [Spelling.value, Scaled.value, hk, Nat.ofDigitChars_append, hdigits]
    cases l.keepsPoint
    · simp [mul_comm]
    · simp [Nat.ofDigitChars_cons]
      ring

/-- When there are at least as many places as digits, all digits stand behind the point, after as
    many zeros as are missing. -/
theorem spells_fraction (h : s.exponent < 0) (hlen : s.chars.length ≤ (-s.exponent).toNat) :
    Spells (l.plainText s).toList s.value := by
  -- a zero before the point, and as many behind it as the digits fall short
  refine ⟨⟨['0'], List.replicate ((-s.exponent).toNat - s.chars.length) '0' ++ s.chars, none,
    by simp, ?_, ?_⟩, ?_, ?_⟩
  · intro c hc
    rw [List.mem_singleton.mp hc]
    rfl
  · intro c hc
    rcases List.mem_append.mp hc with hc | hc
    · exact isDigit_zeros hc
    · exact Scaled.isDigit_chars hc
  · have hfraction : List.replicate ((-s.exponent).toNat - s.chars.length) '0' ++ s.chars ≠ [] := by
      simp [s.chars_ne_nil]
    rw [Layout.plainText, if_neg (not_le.mpr h)]
    dsimp only
    rw [s.length_digits, if_pos hlen, Spelling.chars, Spelling.tail, if_neg hfraction]
    simp [Spelling.exponentChars, toList_zeros, Scaled.chars]
  · have hplaces : (0 : Int) - ((-s.exponent).toNat - s.chars.length + s.chars.length : Nat)
        = s.exponent := by omega
    rw [Spelling.value, Scaled.value, List.length_append, List.length_replicate, Option.getD_none,
      hplaces]
    simp [Nat.ofDigitChars_append, Nat.ofDigitChars_cons, Nat.ofDigitChars_replicate_zero,
      s.ofDigitChars_chars]

/-- When there are more digits than places, the point stands among the digits: the last ones, as
    many as there are places, are the fraction. -/
theorem spells_split (h : s.exponent < 0) (hlen : (-s.exponent).toNat < s.chars.length) :
    Spells (l.plainText s).toList s.value := by
  -- the point stands among the digits
  refine ⟨⟨s.chars.take (s.chars.length - (-s.exponent).toNat),
    s.chars.drop (s.chars.length - (-s.exponent).toNat), none, ?_, ?_, ?_⟩, ?_, ?_⟩
  · rw [Ne, List.take_eq_nil_iff, not_or]
    exact ⟨by omega, s.chars_ne_nil⟩
  · intro c hc
    exact Scaled.isDigit_chars (List.mem_of_mem_take hc)
  · intro c hc
    exact Scaled.isDigit_chars (List.mem_of_mem_drop hc)
  · have hfraction : s.chars.drop (s.chars.length - (-s.exponent).toNat) ≠ [] := by
      rw [Ne, List.drop_eq_nil_iff]
      omega
    rw [Layout.plainText, if_neg (not_le.mpr h)]
    dsimp only
    rw [s.length_digits, if_neg (not_le.mpr hlen), s.toList_digits, Spelling.chars, Spelling.tail,
      if_neg hfraction]
    simp [Spelling.exponentChars]
  · have hplaces : (0 : Int) - (s.chars.length - (s.chars.length - (-s.exponent).toNat) : Nat)
        = s.exponent := by omega
    rw [Spelling.value, Scaled.value, List.take_append_drop, s.ofDigitChars_chars,
      List.length_drop, Option.getD_none, hplaces]

/-- In the form with an exponent one digit stands before the point, and the exponent makes up for
    the others, which stand behind it. -/
theorem spells_exponent :
    Spells (exponentText s (s.exponent + (s.chars.length - 1 : Nat))).toList s.value := by
  -- one digit before the point, and the exponent makes up for the others
  refine ⟨⟨s.chars.take 1, s.chars.drop 1, some (s.exponent + (s.chars.length - 1 : Nat)),
    ?_, ?_, ?_⟩, ?_, ?_⟩
  · rw [Ne, List.take_eq_nil_iff, not_or]
    exact ⟨by decide, s.chars_ne_nil⟩
  · intro c hc
    exact Scaled.isDigit_chars (List.mem_of_mem_take hc)
  · intro c hc
    exact Scaled.isDigit_chars (List.mem_of_mem_drop hc)
  · generalize s.exponent + (s.chars.length - 1 : Nat) = x
    have hmark : (if x < 0 then "e-" else "e+").toList = ['e', if x < 0 then '-' else '+'] := by
      split <;> rfl
    rw [exponentText, s.toList_digits]
    show s.chars.take 1 ++ ((if s.chars.drop 1 = [] then [] else '.' :: s.chars.drop 1)
      ++ Spelling.exponentChars (some x)) = _
    cases hfraction : s.chars.drop 1 <;>
      simp [hmark, Spelling.exponentChars]
  · rw [Spelling.value, Scaled.value, List.take_append_drop, s.ofDigitChars_chars,
      List.length_drop, Option.getD_some, add_sub_cancel_right]

/-- Whichever form the layout chooses, the text spells the decimal.  There are four: with zeros
    behind the digits, with zeros before them, with the point among them, and with an exponent. -/
theorem spells_scaledText : Spells (l.scaledText s).toList s.value := by
  unfold Layout.scaledText
  rw [s.length_digits]
  dsimp only
  split
  · by_cases h : 0 ≤ s.exponent
    · exact spells_whole l s h
    · by_cases hlen : s.chars.length ≤ (-s.exponent).toNat
      · exact spells_fraction l s (not_le.mp h) hlen
      · exact spells_split l s (not_le.mp h) (not_le.mp hlen)
  · exact spells_exponent s

end Forms

/-! ## Floats -/

/-- A number for the float at a place: zero, or one that rounds to the float. -/
def Names (r : ℚ) (n : Nat) : Prop := if n = 0 then r = 0 else (atPlace n).Rounds r

/-- Nothing that rounds to a positive float is zero, for its interval begins above zero. -/
theorem not_rounds_zero {n : Nat} (hn : n ≠ 0) : ¬ (atPlace n).Rounds 0 := by
  intro h
  have hlower : (atPlace n).lowerEnd ≤ 0 := h.between.1
  have hpos : 0 < (atPlace n).lower := by
    unfold atPlace Binary.lower Binary.middle
    split <;> dsimp only <;> split <;> omega
  have hend : 0 < (atPlace n).lowerEnd := mul_pos (Nat.cast_pos.mpr hpos) (atPlace n).quarter_pos
  exact absurd hlower (not_le.mpr hend)

/-- No number is for floats at two places. -/
theorem Names.unique {r : ℚ} {n m : Nat} (hn : Names r n) (hm : Names r m) : n = m := by
  unfold Names at hn hm
  split at hn <;> split at hm
  · omega
  · exact absurd (hn ▸ hm) (not_rounds_zero ‹_›)
  · exact absurd (hm ▸ hn) (not_rounds_zero ‹_›)
  · exact place_eq_of_rounds hn hm

/-- Behind its sign, the text of a finite float spells a number for the float: zero, or the shortest
    decimal that rounds to it. -/
theorem spells_text (l : Layout) {x : Float} (hx : x.isFinite = true) :
    ∃ body r, (l.text x).toList = (if isNegative x then ['-'] else []) ++ body ∧ Spells body r
      ∧ Names r (place x) := by
  have hsign : (if isNegative x then "-" else "").toList = if isNegative x then ['-'] else [] := by
    split <;> rfl
  unfold Layout.text
  rw [magnitude_of_isFinite hx]
  -- zero has no shortest digits and is written by itself
  by_cases hzero : place x = 0
  · rw [if_pos hzero]
    refine ⟨if l.keepsPoint then ['0', '.', '0'] else ['0'], 0, ?_, ?_, by rw [Names, if_pos hzero]⟩
    · dsimp only
      rw [String.toList_append, hsign]
      cases l.keepsPoint <;> rfl
    · refine ⟨⟨['0'], if l.keepsPoint then ['0'] else [], none, by simp, by simp, ?_⟩, ?_, ?_⟩
      · cases l.keepsPoint <;> simp
      · cases l.keepsPoint <;> rfl
      · cases l.keepsPoint <;> simp [Spelling.value, Nat.ofDigitChars_cons]
  · rw [if_neg hzero]
    have hdouble := isDouble_atPlace (Nat.pos_of_ne_zero hzero) (place_lt hx)
    refine ⟨(l.scaledText ((atPlace (place x)).shortest l.tie)).toList,
      ((atPlace (place x)).shortest l.tie).value, ?_, spells_scaledText l _, ?_⟩
    · dsimp only
      rw [String.toList_append, hsign]
    · rw [Names, if_neg hzero]
      exact Binary.rounds_shortest l.tie hdouble

/-- A layout that keeps points shows by a point or an exponent that a number is a float.  No integer
    is written with either, so the two are never confused. -/
theorem mark_mem_scaledText {l : Layout} (hl : l.keepsPoint = true) (s : Scaled) :
    '.' ∈ (l.scaledText s).toList ∨ 'e' ∈ (l.scaledText s).toList := by
  have hexponent : ∀ x, 'e' ∈ (exponentText s x).toList := by
    intro x
    unfold exponentText
    split <;> simp
  unfold Layout.scaledText
  dsimp only
  split
  · left
    simp only [Layout.plainText, hl, if_true]
    split
    · simp
    · split <;> simp
  · exact .inr (hexponent _)

/-- In such a layout the text of every finite float has a point or an exponent, that of zero
    included. -/
theorem mark_mem_text {l : Layout} (hl : l.keepsPoint = true) {x : Float} (hx : x.isFinite = true) :
    '.' ∈ (l.text x).toList ∨ 'e' ∈ (l.text x).toList := by
  unfold Layout.text
  rw [magnitude_of_isFinite hx]
  by_cases hzero : place x = 0
  · left
    rw [if_pos hzero]
    simp [hl]
  · rw [if_neg hzero]
    simp only [String.toList_append, List.mem_append]
    exact (mark_mem_scaledText hl _).imp .inr .inr

/-- Different finite floats have different texts: the sign is the same or not, and behind it the
    spelled number determines the place. -/
theorem eq_of_text (l : Layout) {x y : Float} (hx : x.isFinite = true) (hy : y.isFinite = true)
    (h : l.text x = l.text y) : x = y := by
  obtain ⟨body, r, htext, hspells, hnames⟩ := spells_text l hx
  obtain ⟨body', r', htext', hspells', hnames'⟩ := spells_text l hy
  rw [h, htext'] at htext
  obtain ⟨c, rest, rfl, hc⟩ := hspells.head
  obtain ⟨c', rest', rfl, hc'⟩ := hspells'.head
  -- a minus is no digit, so both texts have a sign or none has
  have hboth : isNegative y = isNegative x ∧ c' :: rest' = c :: rest := by
    cases hnx : isNegative x <;> cases hny : isNegative y <;>
      simp only [hnx, hny, if_true, Bool.false_eq_true, if_false, List.nil_append,
        List.cons_append, List.cons.injEq] at htext ⊢
    · exact ⟨trivial, htext⟩
    · exact absurd (htext.1 ▸ hc) (by decide)
    · exact absurd (htext.1 ▸ hc') (by decide)
    · exact ⟨trivial, htext.2⟩
  obtain ⟨hsign, hbody⟩ := hboth
  have hvalue : r' = r := Spells.unique (hbody ▸ hspells') hspells
  exact eq_of_place hsign.symm (hnames.unique (hvalue ▸ hnames'))

example : json.text 5e-324 = "5e-324" ∧ json.text (-0.0) = "-0.0"
    ∧ plain.text 1e16 = "1" ++ zeros 16 := by
  decide +kernel

end SyntheticTables.Decimal
