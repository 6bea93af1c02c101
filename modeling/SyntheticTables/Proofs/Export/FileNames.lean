/-
  The names of exported files.

  The table file of a resource begins with the digits of its place and a hyphen.  What comes behind
  may begin with digits and hyphens as well, but the digits up to the first hyphen are those of the
  place, so no two places share a name (`place_of_resourceFile`).  Letters and numbers of any script,
  hyphens and underscores are all that a resource's own name leaves in it, hence nothing that a file
  system would follow.
-/
import SyntheticTables.Export.Files
import SyntheticTables.Proofs.Files
import SyntheticTables.Proofs.Text.Integer

namespace SyntheticTables

/-! ## Names of entries -/

/-- Path separators, colons and control characters have no place in a file name. -/
def isHazard (c : Char) : Bool :=
  c = '/' || c = '\\' || c = ':' || c.toNat < 0x20 || (0x7f ≤ c.toNat && c.toNat < 0xa0)

/-- A name that every file system takes for an entry of the directory it is looked up in. -/
structure IsSafeName (name : String) : Prop extends Files.NamesEntry name where
  harmless : ∀ c ∈ name.toList, isHazard c = false

/-- Only names that begin with a period may stand for directories, so a name with another first
    character is safe as soon as its characters are harmless. -/
theorem isSafeName_of_head {name : String} {c : Char} {rest : List Char}
    (hname : name.toList = c :: rest) (hc : c ≠ '.')
    (harmless : ∀ d ∈ name.toList, isHazard d = false) : IsSafeName name where
  no_slash := by
    intro hslash
    have hclear := harmless '/' hslash
    exact absurd hclear (by decide)
  ne_empty := by
    rintro rfl
    cases hname
  ne_period := by
    rintro rfl
    cases hname
    exact hc rfl
  ne_periods := by
    rintro rfl
    cases hname
    exact hc rfl
  harmless := harmless

/-- All hazards lie below the end of the second block of control characters, so a finite check
    covers them. -/
theorem toNat_lt_of_isHazard {c : Char} (h : isHazard c = true) : c.toNat < 0xa0 := by
  simp only [isHazard, Bool.or_eq_true, Bool.and_eq_true, decide_eq_true_eq] at h
  rcases h with (((rfl | rfl) | rfl) | h) | h
  · decide
  · decide
  · decide
  · omega
  · omega

/-- A class of characters is harmless when those up to the last control character are. -/
theorem isHazard_of_class {p : Char → Bool} {c : Char}
    (hlow : ∀ n < 0xa0, p (Char.ofNat n) = true → isHazard (Char.ofNat n) = false)
    (hc : p c = true) : isHazard c = false := by
  rw [Bool.eq_false_iff]
  intro hhazard
  have hclear := hlow c.toNat (toNat_lt_of_isHazard hhazard)
  rw [Char.ofNat_toNat] at hclear
  exact absurd hhazard (Bool.eq_false_iff.mp (hclear hc))

/-- What a resource's own name leaves in the file name is harmless. -/
theorem isHazard_of_isFileNameChar {c : Char} (h : isFileNameChar c = true) :
    isHazard c = false :=
  isHazard_of_class (by decide +kernel) h

/-- So is a digit. -/
theorem isHazard_of_isDigit {c : Char} (h : c.isDigit = true) : isHazard c = false :=
  isHazard_of_class (by decide +kernel) h

/-! ## Table files -/

/-- What is left of a resource's own name. -/
def fileStem (r : TableResource) : List Char :=
  r.name.toList.map fun c => if isFileNameChar c then c else '_'

/-- The characters of a file name: the digits of the place, a hyphen, what is left of the name, and
    the extension. -/
theorem toList_resourceFile (place : Nat) (r : TableResource) :
    (resourceFile place r).toList =
      Nat.toDigits 10 place ++ '-' :: (fileStem r ++ ['.', 'c', 's', 'v']) := by
  have hplace : (toString place).toList = Nat.toDigits 10 place := Nat.toList_repr
  have hhyphen : "-".toList = ['-'] := rfl
  have hextension : ".csv".toList = ['.', 'c', 's', 'v'] := rfl
  unfold resourceFile
  rw [String.toList_append, String.toList_append, String.toList_append, hplace, hhyphen,
    hextension, String.toList_ofList, List.append_assoc, List.append_assoc]
  rfl

/-- The digits in front of the first character that is none are those of the place. -/
theorem takeWhile_resourceFile (place : Nat) (r : TableResource) :
    (resourceFile place r).toList.takeWhile Char.isDigit = Nat.toDigits 10 place := by
  rw [toList_resourceFile, List.takeWhile_append_of_pos fun c hc => Text.isDigit_toDigits hc]
  simp

/-- The name of a table file tells the place of its resource. -/
theorem place_of_resourceFile {i j : Nat} {r r' : TableResource}
    (h : resourceFile i r = resourceFile j r') : i = j := by
  have hdigits : Nat.toDigits 10 i = Nat.toDigits 10 j := by
    rw [← takeWhile_resourceFile i r, h, takeWhile_resourceFile]
  calc
    i = Nat.ofDigitChars 10 (Nat.toDigits 10 i) 0 := Nat.ofDigitChars_ten_toDigits.symm
    _ = Nat.ofDigitChars 10 (Nat.toDigits 10 j) 0 := by rw [hdigits]
    _ = j := Nat.ofDigitChars_ten_toDigits

/-- Only letters and numbers of any script, hyphens and underscores are left; everything else has
    become an underscore. -/
theorem isFileNameChar_of_mem_fileStem {r : TableResource} {c : Char} (h : c ∈ fileStem r) :
    isFileNameChar c = true := by
  obtain ⟨d, -, rfl⟩ := List.mem_map.mp h
  by_cases hd : isFileNameChar d = true
  · rw [if_pos hd]
    exact hd
  · rw [if_neg hd]
    decide

/-- A table file begins with a digit. -/
theorem exists_digit_resourceFile (place : Nat) (r : TableResource) :
    ∃ c rest, (resourceFile place r).toList = c :: rest ∧ c.isDigit = true := by
  rw [toList_resourceFile]
  cases hdigits : Nat.toDigits 10 place with
  | nil => exact absurd hdigits Nat.toDigits_ne_nil
  | cons c rest =>
    refine ⟨c, _, rfl, Text.isDigit_toDigits (n := place) ?_⟩
    rw [hdigits]
    exact List.mem_cons_self

/-- The name of a table file is safe whatever the resource is called.  Its digit in front keeps it
    from being a period or two, and each of its four parts is harmless by itself. -/
theorem isSafeName_resourceFile (place : Nat) (r : TableResource) :
    IsSafeName (resourceFile place r) := by
  obtain ⟨first, rest, hlist, hdigit⟩ := exists_digit_resourceFile place r
  refine isSafeName_of_head hlist ?_ ?_
  · rintro rfl
    exact absurd hdigit (by decide)
  · intro c hc
    rw [toList_resourceFile] at hc
    -- the place, the hyphen, the stem and the extension, in this order
    rcases List.mem_append.mp hc with hc | hc
    · exact isHazard_of_isDigit (Text.isDigit_toDigits hc)
    rcases List.mem_cons.mp hc with rfl | hc
    · decide
    rcases List.mem_append.mp hc with hc | hc
    · exact isHazard_of_isFileNameChar (isFileNameChar_of_mem_fileStem hc)
    · have hextension : ['.', 'c', 's', 'v'].all (!isHazard ·) = true := by decide
      simpa using List.all_eq_true.mp hextension c hc

/-- So is the name of the descriptor. -/
theorem isSafeName_descriptorFile : IsSafeName descriptorFile := by
  refine isSafeName_of_head (c := 'd') rfl (by decide) ?_
  intro c hc
  have hall : descriptorFile.toList.all (!isHazard ·) = true := by decide
  simpa using List.all_eq_true.mp hall c hc

/-- No table file has the name of the descriptor, which does not begin with a digit. -/
theorem resourceFile_ne_descriptorFile (place : Nat) (r : TableResource) :
    resourceFile place r ≠ descriptorFile := by
  obtain ⟨first, rest, hlist, hdigit⟩ := exists_digit_resourceFile place r
  intro heq
  rw [heq] at hlist
  cases hlist
  exact absurd hdigit (by decide)

end SyntheticTables
