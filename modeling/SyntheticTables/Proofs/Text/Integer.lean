/-
  Integers that are written out can be read back.

  On digits the reader is the fold that the decimal notation of naturals is inverse to
  (`natFrom_digits`); signs and the range of words come on top of that.
-/
import SyntheticTables.Text.Integer

namespace SyntheticTables.Text

/-! ## Digits -/

/-- A decimal digit is read as its distance from the character `0`. -/
theorem digit?_of_isDigit {c : Char} (h : c.isDigit = true) :
    digit? c = some (c.toNat - '0'.toNat) := by
  unfold digit?
  rw [if_pos]
  simpa [Char.isDigit, Char.le_def] using h

/-- That distance is below ten. -/
theorem digit_lt {c : Char} (h : c.isDigit = true) : c.toNat - '0'.toNat < 10 := by
  simp only [Char.isDigit, Bool.and_eq_true, decide_eq_true_eq] at h
  have h9 : c.toNat ≤ 57 := UInt32.le_iff_toNat_le.mp h.2
  show c.toNat - 48 < 10
  omega

/-- Reading digits after a number is the fold that decimal notation is inverse to.  By induction on
    the digits, for any number read before. -/
theorem natFrom_digits : ∀ {cs : List Char} (n : Nat), (∀ c ∈ cs, c.isDigit = true) →
    natFrom 10 n cs = some (Nat.ofDigitChars 10 cs n)
  | [], n, _ => by simp [natFrom]
  | c :: rest, n, h => by
    have hc := h c List.mem_cons_self
    rw [natFrom, digit?_of_isDigit hc, Nat.ofDigitChars_cons, Nat.mul_comm 10 n]
    simp only [digit_lt hc, if_true]
    exact natFrom_digits _ fun d hd => h d (List.mem_cons_of_mem _ hd)

/-- A text of digits is read as a number, unless it is empty. -/
theorem nat?_digits {cs : List Char} (hne : cs ≠ []) (h : ∀ c ∈ cs, c.isDigit = true) :
    nat? 10 cs = some (Nat.ofDigitChars 10 cs 0) := by
  have hread : nat? 10 cs = natFrom 10 0 cs := by
    cases cs with
    | nil => exact absurd rfl hne
    | cons c rest => rfl
  rw [hread, natFrom_digits 0 h]

/-- A number is written in decimal digits. -/
theorem isDigit_toDigits {n : Nat} {c : Char} (hc : c ∈ Nat.toDigits 10 n) : c.isDigit = true :=
  Nat.isDigit_of_mem_toDigits (by decide) (by decide) hc

/-- Only zero is written with a zero in front.  By strong induction: all but the last digit are
    those of the quotient by ten, which is smaller. -/
theorem head?_toDigits {n : Nat} (hn : n ≠ 0) : (Nat.toDigits 10 n).head? ≠ some '0' := by
  induction n using Nat.strongRecOn with
  | ind n ih =>
    rcases Nat.lt_or_ge n 10 with hlt | hge
    · rw [Nat.toDigits_of_lt_base hlt]
      simpa [Nat.digitChar_eq_zero] using hn
    · have hquotient : n / 10 ≠ 0 := by omega
      have hfirst := ih (n / 10) (by omega) hquotient
      rw [Nat.toDigits_of_base_le (by decide) hge, List.head?_append]
      cases hdigits : Nat.toDigits 10 (n / 10) with
      | nil => exact absurd hdigits Nat.toDigits_ne_nil
      | cons c rest =>
        rw [hdigits] at hfirst
        exact hfirst

/-- The digits of a number are read as the number. -/
theorem nat?_toDigits (n : Nat) : nat? 10 (Nat.toDigits 10 n) = some n := by
  rw [nat?_digits Nat.toDigits_ne_nil fun c hc => isDigit_toDigits hc,
    Nat.ofDigitChars_ten_toDigits]

/-! ## Signs -/

/-- There is no sign in front of digits, so the reader of integers takes all of them as they are. -/
theorem splitSign_toDigits (n : Nat) :
    splitSign (Nat.toDigits 10 n) = (false, Nat.toDigits 10 n) := by
  cases hcs : Nat.toDigits 10 n with
  | nil => rfl
  | cons c rest =>
    have hc : c.isDigit = true := isDigit_toDigits (n := n) (hcs ▸ List.mem_cons_self)
    unfold splitSign
    split
    · rename_i heq
      cases heq
      exact absurd hc (by decide)
    · rename_i heq
      cases heq
      exact absurd hc (by decide)
    · rfl

/-- A minus in front is read as a sign. -/
theorem int?_minus (n : Nat) : int? ('-' :: Nat.toDigits 10 n) = some (-(n : Int)) := by
  simp [int?, splitSign, nat?_toDigits]

/-- So is a plus, though none is ever written. -/
theorem int?_plus (n : Nat) : int? ('+' :: Nat.toDigits 10 n) = some (n : Int) := by
  simp [int?, splitSign, nat?_toDigits]

/-- Integers from zero on are written without a sign, those below with one. -/
theorem toList_ofNat (n : Nat) : (toString (Int.ofNat n)).toList = Nat.toDigits 10 n :=
  Nat.toList_repr

theorem toList_negSucc (n : Nat) :
    (toString (Int.negSucc n)).toList = '-' :: Nat.toDigits 10 (n + 1) := by
  show ("-" ++ Nat.repr (n + 1)).toList = _
  simp [Nat.toList_repr]

/-- Every integer is read back from its text. -/
theorem int?_toString (i : Int) : int? (toString i).toList = some i := by
  cases i with
  | ofNat n =>
    rw [toList_ofNat, int?, splitSign_toDigits]
    simp [nat?_toDigits]
  | negSucc n =>
    rw [toList_negSucc, int?_minus, Int.negSucc_eq]
    rfl

/-- An integer is written with digits behind a sign. -/
theorem mem_toString {i : Int} {c : Char} (hc : c ∈ (toString i).toList) :
    c = '-' ∨ c.isDigit = true := by
  cases i with
  | ofNat n =>
    rw [toList_ofNat] at hc
    exact .inr (isDigit_toDigits hc)
  | negSucc n =>
    rw [toList_negSucc] at hc
    rcases List.mem_cons.mp hc with hc | hc
    · exact .inl hc
    · exact .inr (isDigit_toDigits hc)

/-- A word reads back as itself: its text is that of the integer it stands for, which lies in the
    range of words. -/
theorem int64?_toString (i : Int64) : int64? (toString i) = some i := by
  have htext : toString i = toString i.toInt := rfl
  have hlow := Int64.le_toInt i
  have hhigh := Int64.toInt_lt i
  rw [htext, int64?, int?_toString]
  -- what is left is that a word lies in the range of words
  simp only [Option.bind_some, toInt64?]
  rw [if_pos, Int64.ofInt_toInt]
  simp
  omega

end SyntheticTables.Text
