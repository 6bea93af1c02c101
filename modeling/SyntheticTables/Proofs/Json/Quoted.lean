/-
  A text between quotes reads back as itself.

  Each character is read back from what stands for it: a letter behind a backslash, four hexadecimal
  digits, or the character itself (`textBody_escapedChar`).  The reader therefore finds the closing
  quote where the writer put it, whatever follows (`textBody_stringText`).
-/
import SyntheticTables.Json.Reader
import SyntheticTables.Json.Printer
import Mathlib.Tactic.IntervalCases

namespace SyntheticTables.Json

/-- The value that was read and what is left. -/
def content {α : Type} {cs : List Char} (s : Step α cs) : α × List Char := (s.value, s.rest)

/-! ## Characters -/

/-- The reader goes on behind an escape with the character it stands for.  The proofs that come with
    each step are left out of the comparison by `content`. -/
theorem textBody_escape {c : Char} {tail r : List Char} (read : List Char)
    (h : (escape tail).map content = .ok (c, r)) :
    (textBody read ('\\' :: tail)).map content = (textBody (c :: read) r).map content := by
  rw [textBody]
  simp only [Char.reduceEq, if_false, if_true]
  cases hs : escape tail with
  | error e =>
    rw [hs] at h
    cases h
  | ok s =>
    rw [hs] at h
    obtain ⟨v, rest, shorter⟩ := s
    cases h
    dsimp only
    cases textBody (v :: read) rest <;> rfl

/-- A character that needs no escape is read as it stands. -/
theorem textBody_plain {c : Char} (read r : List Char) (hquote : c ≠ '"') (hback : c ≠ '\\')
    (hcontrol : ¬ c.toNat < 0x20) :
    (textBody read (c :: r)).map content = (textBody (c :: read) r).map content := by
  rw [textBody, if_neg hquote, if_neg hback, if_neg hcontrol]
  cases textBody (c :: read) r <;> rfl

/-- A control character is written with four hexadecimal digits, the first two of which are zero. -/
theorem toList_controlText {c : Char} (hc : c.toNat < 0x20) :
    (controlText c).toList
      = '\\' :: 'u' :: '0' :: '0' :: Nat.digitChar (c.toNat / 16) :: [Nat.digitChar (c.toNat % 16)] := by
  unfold controlText Text.hexDigits
  generalize c.toNat = n at hc
  interval_cases n <;> rfl

/-- These digits are read as the character they count; there are 32 cases. -/
theorem escape_control {n : Nat} (hn : n < 0x20) (r : List Char) :
    ((escape ('u' :: '0' :: '0' :: Nat.digitChar (n / 16) :: Nat.digitChar (n % 16) :: r)).map content)
      = .ok (Char.ofNat n, r) := by
  interval_cases n <;> rfl

/-- What stands for a character is read as that character.  Seven have a letter of their own, the
    other control characters are counted, and all the rest stand for themselves. -/
theorem textBody_escapedChar (c : Char) (read r : List Char) :
    (textBody read ((escapedChar c).toList ++ r)).map content
      = (textBody (c :: read) r).map content := by
  by_cases hletter : c ∈ ['"', '\\', '\x08', '\t', '\n', '\x0c', '\r']
  · simp only [List.mem_cons, List.not_mem_nil, or_false] at hletter
    rcases hletter with rfl | rfl | rfl | rfl | rfl | rfl | rfl <;>
      exact textBody_escape read rfl
  · simp only [List.mem_cons, List.not_mem_nil, or_false, not_or] at hletter
    obtain ⟨hquote, hback, hbackspace, htab, hline, hfeed, hreturn⟩ := hletter
    have hchar : escapedChar c = if c.toNat < 0x20 then controlText c else c.toString := by
      simp only [escapedChar, hquote, hback, hbackspace, htab, hline, hfeed, hreturn, if_false]
    by_cases hcontrol : c.toNat < 0x20
    · rw [hchar, if_pos hcontrol, toList_controlText hcontrol]
      refine textBody_escape read ?_
      have hread := escape_control hcontrol r
      rwa [Char.ofNat_toNat] at hread
    · rw [hchar, if_neg hcontrol, Char.toString_eq_singleton, String.toList_singleton]
      exact textBody_plain read r hquote hback hcontrol

/-! ## Texts -/

/-- The text is written character by character between two quotes. -/
theorem toList_stringText (s : String) :
    (stringText s).toList = '"' :: (s.toList.flatMap (fun c => (escapedChar c).toList) ++ ['"']) := by
  simp [stringText, String.toList_join, List.flatMap_map]

/-- The reader goes through the characters up to the closing quote.  By induction on them; those
    read before are kept in reverse. -/
theorem textBody_body (cs read r : List Char) :
    (textBody read (cs.flatMap (fun c => (escapedChar c).toList) ++ '"' :: r)).map content
      = .ok (String.ofList (read.reverse ++ cs), r) := by
  induction cs generalizing read with
  | nil =>
    rw [List.flatMap_nil, List.nil_append, textBody, if_pos rfl, List.append_nil]
    rfl
  | cons c rest ih =>
    rw [List.flatMap_cons, List.append_assoc, textBody_escapedChar, ih, List.reverse_cons,
      List.append_assoc, List.singleton_append]

/-- The reader takes a text back from between its quotes and leaves what follows. -/
theorem textBody_stringText (s : String) (r : List Char) :
    ∃ body, (stringText s).toList ++ r = '"' :: body
      ∧ (textBody [] body).map content = .ok (s, r) := by
  refine ⟨s.toList.flatMap (fun c => (escapedChar c).toList) ++ '"' :: r, ?_, ?_⟩
  · rw [toList_stringText, List.cons_append, List.append_assoc, List.singleton_append]
  · rw [textBody_body, List.reverse_nil, List.nil_append, String.ofList_toList]

/-- A text between quotes ends in one place only. -/
theorem stringText_append_inj {s s' : String} {r r' : List Char}
    (h : (stringText s).toList ++ r = (stringText s').toList ++ r') : s = s' ∧ r = r' := by
  obtain ⟨body, hbody, hread⟩ := textBody_stringText s r
  obtain ⟨body', hbody', hread'⟩ := textBody_stringText s' r'
  rw [h, hbody'] at hbody
  cases hbody
  rw [hread'] at hread
  cases hread
  exact ⟨rfl, rfl⟩

end SyntheticTables.Json
