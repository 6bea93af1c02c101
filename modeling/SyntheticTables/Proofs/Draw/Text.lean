/-
  The texts in a column of texts.

  A text is put together from words that are drawn one after the other until it is long enough, and
  then cut (`textCell_apply`).  Each word after the first brings a space with it, so there is an end
  to the words even if all of them are empty (`fillText_apply`).  Of ordered bounds the cut keeps
  both (`textCell_admitted`).

  A space at the end of the cut is looked for once.  Where two of them stand side by side inside a
  word, the cut can leave one at the end, and it does so exactly when it falls on them
  (`getLast?_cutText`, `textCell_endsInSpace_iff`).
-/
import SyntheticTables.Draw.Cell
import SyntheticTables.Proofs.Draw.Simple
import SyntheticTables.Proofs.Value.Contents
import SyntheticTables.Proofs.Vocabulary

namespace SyntheticTables

open Draw Text

/-! ## Filling -/

/-- A text that was made long enough by words behind it; there are no more of them than characters
    were missing. -/
structure Filled (minLength : Nat) (start : String) (rest : List String) (text : String) : Prop where
  spelled : text.toList = start.toList ++ following rest
  long : minLength ≤ text.length
  few : rest.length ≤ minLength - start.length

namespace Context

variable (c : Context)

/-- Filling a text up succeeds from every state: it draws some words, no more than characters were
    missing, and puts them behind the start.  That is an end to the loop even if all words are
    empty, because each brings a space with it. -/
theorem fillText_apply (minLength : Nat) (start : String) (s : State) :
    ∃ rest text s', times rest.length c.word s = (.ok rest, s') ∧
      c.fillText minLength start start.length s = (.ok (text, text.length), s') ∧
      Filled minLength start rest text := by
  -- on how many characters are still missing: each word brings the space before it
  induction hgap : minLength - start.length using Nat.strongRecOn generalizing start s with
  | ind gap ih =>
    unfold fillText
    by_cases hshort : start.length < minLength
    · obtain ⟨w, s₁, hword, -⟩ := (c.gives_word (E := fun _ => False)).succeeds s
      have hlength : (start ++ " " ++ w).length = start.length + 1 + w.length := by
        rw [String.length_append, String.length_append]
        rfl
      obtain ⟨rest, text, s', hrest, hfill, hfilled⟩ :=
        ih (minLength - (start ++ " " ++ w).length) (by omega) (start ++ " " ++ w) s₁ rfl
      refine ⟨w :: rest, text, s', times_succ_eq_ok.mpr ⟨w, rest, s₁, rfl, hword, hrest⟩,
        ?_, ?_, hfilled.long, ?_⟩
      · rw [dif_pos hshort, bind_apply, hword]
        rw [hlength] at hfill
        exact hfill
      · rw [hfilled.spelled]
        simp [following]
      · have hfew := hfilled.few
        rw [List.length_cons]
        omega
    · refine ⟨[], start, s, rfl, ?_, by simp [following], Nat.le_of_not_lt hshort,
        Nat.zero_le _⟩
      rw [dif_neg hshort]
      rfl

end Context

/-! ## Cuts -/

/-- What stays of a text in a column of texts. -/
def StringType.cut (t : StringType) (text : List Char) : List Char :=
  t.maxLength.elim text fun maxLength =>
    if maxLength.toNat < text.length then
      Context.cutText (t.minLength.getD 0).toNat maxLength.toNat text
    else text

/-- The text is cut where two spaces stand side by side: both before the cut if its end may be dropped,
    else one before it and one behind. -/
def StringType.CutsAtSpaces (t : StringType) (text : List Char) : Prop :=
  ∃ maxLength ∈ t.maxLength, maxLength.toNat < text.length ∧ ∃ i, TwoSpacesAt text i ∧
    if (t.minLength.getD 0).toNat < maxLength.toNat then i + 2 = maxLength.toNat
    else i + 1 = maxLength.toNat

namespace Context

/-- The end of a cut inside the text is the last character that it kept. -/
theorem getLast?_take_succ {text : List Char} {n : Nat} (h : n < text.length) :
    (text.take (n + 1)).getLast? = text[n]? := by
  rw [List.getLast?_take, if_neg (Nat.succ_ne_zero n), Nat.add_sub_cancel,
    List.getElem?_eq_getElem h, Option.some_or]

/-- Cut to nothing, a text is empty; this is the one length at which there is no last character. -/
theorem cutText_zero (minLength : Nat) (text : List Char) : cutText minLength 0 text = [] := by
  simp [cutText]

/-- A cut at a length that is not zero, with the end of the cut read off the text: the three cases
    are those of the loop-free rule in `cutText`, said of `text[n]?`. -/
theorem cutText_succ {minLength n : Nat} {text : List Char} (hlong : n + 1 < text.length) :
    cutText minLength (n + 1) text =
      if text[n]? = some ' ' then
        if n < minLength then text.take n ++ (text.drop (n + 1)).take 1 else text.take n
      else text.take (n + 1) := by
  have hlast := getLast?_take_succ (Nat.lt_of_succ_lt hlong)
  have hshort : (text.take (n + 1)).dropLast = text.take n := by
    rw [List.dropLast_take hlong, Nat.add_sub_cancel]
  have hlength : (text.take n).length = n := by
    rw [List.length_take]
    omega
  unfold cutText
  simp only [hlast, hshort, hlength]

/-- Between ordered bounds a cut is as long as it has to be and may be.  A space at its end is
    dropped where one character less is enough, and otherwise gives way to the character behind
    it. -/
theorem length_cutText {minLength maxLength : Nat} {text : List Char} (hle : minLength ≤ maxLength)
    (hlong : maxLength < text.length) : minLength ≤ (cutText minLength maxLength text).length ∧
      (cutText minLength maxLength text).length ≤ maxLength := by
  rcases maxLength with _ | n
  · rw [cutText_zero]
    exact ⟨hle, Nat.le_refl 0⟩
  rw [cutText_succ hlong]
  split
  · split
    · -- the character behind the cut makes up for the space
      rw [List.length_append, List.length_take, List.length_take, List.length_drop]
      omega
    · rw [List.length_take]
      omega
  · rw [List.length_take]
    omega

/-- The end of a cut is a space where two of them are side by side: the first is left when the second
    is dropped, or the second takes the place of the first. -/
theorem getLast?_cutText {minLength maxLength : Nat} {text : List Char} (hle : minLength ≤ maxLength)
    (hlong : maxLength < text.length) :
    (cutText minLength maxLength text).getLast? = some ' ' ↔ ∃ i, TwoSpacesAt text i ∧
      if minLength < maxLength then i + 2 = maxLength else i + 1 = maxLength := by
  rcases maxLength with _ | n
  · rw [cutText_zero]
    constructor
    · nofun
    · rintro ⟨i, -, hi⟩
      split at hi <;> omega
  rw [cutText_succ hlong]
  by_cases hspace : text[n]? = some ' '
  · rw [if_pos hspace]
    by_cases hroom : minLength < n + 1
    · -- the space is dropped, and what stood before it ends the text
      rw [if_neg (by omega)]
      simp only [if_pos hroom]
      rcases n with _ | k
      · constructor
        · nofun
        · rintro ⟨i, -, hi⟩
          omega
      rw [getLast?_take_succ (by omega)]
      constructor
      · intro hbefore
        exact ⟨k, ⟨hbefore, hspace⟩, rfl⟩
      · rintro ⟨i, htwo, hi⟩
        obtain rfl : i = k := by omega
        exact htwo.1
    · -- the space gives way to what stood behind it
      rw [if_pos (by omega)]
      simp only [if_neg hroom]
      have hbehind : (text.take n ++ (text.drop (n + 1)).take 1).getLast? = text[n + 1]? := by
        rw [List.getLast?_append, List.take_one, List.head?_drop, List.getElem?_eq_getElem hlong]
        rfl
      rw [hbehind]
      constructor
      · intro hnext
        exact ⟨n, ⟨hspace, hnext⟩, rfl⟩
      · rintro ⟨i, htwo, hi⟩
        obtain rfl : i = n := by omega
        exact htwo.2
  · rw [if_neg hspace, getLast?_take_succ (Nat.lt_of_succ_lt hlong)]
    constructor
    · intro h
      exact absurd h hspace
    · -- one of two spaces would be the last character of the cut
      rintro ⟨i, htwo, hi⟩
      refine absurd ?_ hspace
      split at hi
      · obtain rfl : n = i + 1 := by omega
        exact htwo.2
      · obtain rfl : n = i := by omega
        exact htwo.1

end Context

namespace StringType

variable {t : StringType} {text : List Char}

/-- With an upper bound, what stays of a text is cut to it if the text goes beyond it. -/
theorem cut_of_maxLength {maxLength : UInt64} (h : t.maxLength = some maxLength) :
    t.cut text = if maxLength.toNat < text.length then
      Context.cutText (t.minLength.getD 0).toNat maxLength.toNat text else text := by
  rw [cut, h, Option.elim_some]

/-- The lower bound, zero if there is none, is at most the upper one. -/
theorem minLength_le (ht : (FieldType.string t).Valid) {maxLength : UInt64}
    (h : t.maxLength = some maxLength) : (t.minLength.getD 0).toNat ≤ maxLength.toNat := by
  cases hmin : t.minLength with
  | none => exact Nat.zero_le _
  | some minLength => exact UInt64.le_iff_toNat_le.mp (ht minLength hmin maxLength h)

/-- A column admits the cut of every text that is long enough.  Without an upper bound there is no
    cut at all, and with one the text may be short enough already. -/
theorem admits_cut (ht : (FieldType.string t).Valid)
    (hlong : (t.minLength.getD 0).toNat ≤ text.length) :
    (FieldType.string t).Admits (String.ofList (t.cut text)) := by
  have hbounds : (t.minLength.getD 0).toNat ≤ (t.cut text).length ∧
      ∀ m ∈ t.maxLength, (t.cut text).length ≤ m.toNat := by
    cases hmax : t.maxLength with
    | none =>
      rw [cut, hmax]
      exact ⟨hlong, nofun⟩
    | some maxLength =>
      rw [cut_of_maxLength hmax]
      split
      · rename_i hbeyond
        have hcut := Context.length_cutText (minLength_le ht hmax) hbeyond
        refine ⟨hcut.1, ?_⟩
        rintro _ ⟨⟩
        exact hcut.2
      · rename_i hfits
        refine ⟨hlong, ?_⟩
        rintro _ ⟨⟩
        exact Nat.le_of_not_lt hfits
  rw [FieldType.Admits, String.length_ofList]
  refine ⟨fun m hm => ?_, hbounds.2⟩
  have hlow := hbounds.1
  rwa [hm] at hlow

/-- Of a text that ends in no space, a cut ends in one where it falls on two. -/
theorem getLast?_cut (ht : (FieldType.string t).Valid) (hend : text.getLast? ≠ some ' ') :
    (t.cut text).getLast? = some ' ' ↔ t.CutsAtSpaces text := by
  cases hmax : t.maxLength with
  | none =>
    rw [cut, CutsAtSpaces, hmax]
    simp [hend]
  | some maxLength =>
    rw [cut_of_maxLength hmax, CutsAtSpaces, hmax]
    by_cases hbeyond : maxLength.toNat < text.length
    · rw [if_pos hbeyond, Context.getLast?_cutText (minLength_le ht hmax) hbeyond]
      simp [hbeyond]
    · rw [if_neg hbeyond]
      simp [hend, hbeyond]

/-- Where spaces stand alone, no cut falls on two of them. -/
theorem not_cutsAtSpaces (h : LoneSpaces text) : ¬ t.CutsAtSpaces text := by
  rintro ⟨_, -, -, i, htwo, -⟩
  exact h.not_twoSpacesAt i htwo

end StringType

/-! ## Cells -/

namespace Context

variable (c : Context)

/-- A cell is the cut of some words, and nothing is drawn for it but these.  So what holds of cells
    is said of `StringType.cut` on lists of characters, with no draw in sight. -/
theorem textCell_apply (t : StringType) (s : State) :
    ∃ words s', times words.length c.word s = (.ok words, s') ∧
      words.length ≤ (t.minLength.getD 0).toNat + 1 ∧
      (t.minLength.getD 0).toNat ≤ (" ".intercalate words).length ∧
      c.textCell t s = (.ok (String.ofList (t.cut (" ".intercalate words).toList)), s') := by
  obtain ⟨first, s₁, hfirst, -⟩ := (c.gives_word (E := fun _ => False)).succeeds s
  obtain ⟨rest, text, s', hrest, hfill, hfilled⟩ :=
    c.fillText_apply (t.minLength.getD 0).toNat first s₁
  have htext : " ".intercalate (first :: rest) = text := by
    rw [← String.toList_inj, toList_intercalate_space, hfilled.spelled]
  have hfew := hfilled.few
  refine ⟨first :: rest, s', times_succ_eq_ok.mpr ⟨first, rest, s₁, rfl, hfirst, hrest⟩, ?_,
    htext ▸ hfilled.long, ?_⟩
  · rw [List.length_cons]
    omega
  · rw [htext, textCell, bind_apply, hfirst]
    show (c.fillText _ first first.length >>= _) s₁ = _
    rw [bind_apply, hfill]
    -- without an upper bound the text stays as it is, and so it does below one
    cases hmax : t.maxLength with
    | none =>
      rw [StringType.cut, hmax, Option.elim_none, String.ofList_toList]
      rfl
    | some maxLength =>
      rw [StringType.cut_of_maxLength hmax, String.length_toList]
      show (if maxLength.toNat < text.length then
        pure (String.ofList (cutText _ maxLength.toNat text.toList)) else pure text : Draw String)
          s' = _
      split
      · rfl
      · rw [String.ofList_toList]
        rfl

variable {t : StringType}

/-- A cell can be drawn of every column of texts, from every state and whatever the words are; at most
    one word more is drawn for it than it has to have characters.  Of ordered bounds it keeps both. -/
theorem textCell_admitted (ht : (FieldType.string t).Valid) (s : State) :
    ∃ words text s', times words.length c.word s = (.ok words, s') ∧
      words.length ≤ (t.minLength.getD 0).toNat + 1 ∧
      c.textCell t s = (.ok text, s') ∧ (FieldType.string t).Admits text := by
  obtain ⟨words, s', hwords, hfew, hlong, hcell⟩ := c.textCell_apply t s
  rw [← String.length_toList] at hlong
  exact ⟨words, _, s', hwords, hfew, hcell, StringType.admits_cut ht hlong⟩

/-- The input is a vocabulary whose only word is empty, and a column that asks for five to seven
    characters: the spaces alone make the text long enough, and the cut keeps both bounds. -/
theorem textCell_admitted_emptyWord :
    let c : Context := ⟨"en_US", #[""], Nat.one_pos, 1000, 0.5⟩
    let t : StringType := { minLength := some 5, maxLength := some 7 }
    (FieldType.string t).Valid ∧
      ∃ words text s', times words.length c.word (.ofSeed 0) = (.ok words, s') ∧
        words.length ≤ (t.minLength.getD 0).toNat + 1 ∧
        c.textCell t (.ofSeed 0) = (.ok text, s') ∧ (FieldType.string t).Admits text := by
  intro c t
  have hvalid : (FieldType.string t).Valid := by
    rintro _ ⟨⟩ _ ⟨⟩
    decide
  exact ⟨hvalid, c.textCell_admitted hvalid (.ofSeed 0)⟩

/-- Of words from a source, a cell ends in a space exactly where its text is cut at two spaces side by
    side.  Between words there is only one, so this never happens while no word holds two. -/
theorem textCell_endsInSpace_iff (hsource : Wordlist c.vocabulary.toList)
    (ht : (FieldType.string t).Valid) (s : State) :
    ∃ words text s', times words.length c.word s = (.ok words, s') ∧
      c.textCell t s = (.ok text, s') ∧
      (text.toList.getLast? = some ' ' ↔ t.CutsAtSpaces (" ".intercalate words).toList) ∧
      ((∀ w ∈ c.vocabulary, LoneSpaces w.toList) → text.toList.getLast? ≠ some ' ') := by
  obtain ⟨words, s', hwords, -, -, hcell⟩ := c.textCell_apply t s
  have hknown : ∀ w ∈ words, w ∈ c.vocabulary :=
    (c.gives_timesWord (E := fun _ => False) words.length).ensures s words
      (congrArg Prod.fst hwords)
  have hword : ∀ w ∈ words, IsWord w.toList := fun w hw =>
    hsource.isWord w (Array.mem_toList_iff.mpr (hknown w hw))
  have hiff := StringType.getLast?_cut ht (getLast?_intercalate_space hword)
  refine ⟨words, _, s', hwords, hcell, ?_, fun hlone => ?_⟩
  · rw [String.toList_ofList]
    exact hiff
  · rw [String.toList_ofList]
    exact fun hspace => StringType.not_cutsAtSpaces (loneSpaces_intercalate_space fun w hw =>
      ⟨hword w hw, hlone w (hknown w hw)⟩) (hiff.mp hspace)

/-- A context of one word, in which two spaces stand side by side. -/
def wideSpaced : Context := ⟨"en_US", #["a  b"], Nat.one_pos, 1000, 0.5⟩

/-- The word is one that a source gives: trimming takes the white space at its ends and leaves that
    in its middle. -/
theorem wordlist_wideSpaced : Wordlist wideSpaced.vocabulary.toList :=
  .given (.add .none "en_US" [" a  b\t", ""]) "en-US" (by decide +kernel)

/-- The input is the word above and a column of exactly seven characters.  In two of these words the
    seventh and the eighth character are the two spaces, and the text may not be shorter than the
    cut. -/
theorem textCell_endsInSpace_iff_wideSpaced :
    let t : StringType := { minLength := some 7, maxLength := some 7 }
    Wordlist wideSpaced.vocabulary.toList ∧ (FieldType.string t).Valid ∧
      ∃ words text s', times words.length wideSpaced.word (.ofSeed 0) = (.ok words, s') ∧
        wideSpaced.textCell t (.ofSeed 0) = (.ok text, s') ∧
        (text.toList.getLast? = some ' ' ↔ t.CutsAtSpaces (" ".intercalate words).toList) ∧
        ((∀ w ∈ wideSpaced.vocabulary, LoneSpaces w.toList) →
          text.toList.getLast? ≠ some ' ') := by
  intro t
  have hvalid : (FieldType.string t).Valid := by
    rintro _ ⟨⟩ _ ⟨⟩
    decide
  exact ⟨wordlist_wideSpaced, hvalid,
    wideSpaced.textCell_endsInSpace_iff wordlist_wideSpaced hvalid (.ofSeed 0)⟩

/-- The input is the word above, a column of at most three characters and the seed 0.  Cut behind
    its second space, the word loses that one only, and the cell is `"a "`. -/
theorem textCell_endsInSpace :
    let t : StringType := { maxLength := some 3 }
    Wordlist wideSpaced.vocabulary.toList ∧ (FieldType.string t).Valid ∧
      (wideSpaced.textCell t (.ofSeed 0)).1 = .ok "a " := by
  intro t
  have hvalid : (FieldType.string t).Valid := nofun
  refine ⟨wordlist_wideSpaced, hvalid, ?_⟩
  have hvalue : (wideSpaced.textCell t (.ofSeed 0)).1.toOption = some "a " := by decide +kernel
  cases hcell : (wideSpaced.textCell t (.ofSeed 0)).1 with
  | error e =>
    rw [hcell] at hvalue
    cases hvalue
  | ok text =>
    rw [hcell] at hvalue
    exact congrArg Except.ok (Option.some.inj hvalue)

end Context

end SyntheticTables
