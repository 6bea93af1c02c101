/-
  Joined texts, and words in particular.

  Texts that were put together are taken apart where the kind of the characters changes, or at the
  last place of a character (`append_inj_of_takeWhile`, `append_cons_inj_of_last`).

  A word of a vocabulary has no blank at either end (`isWord_trimChars`), but it may hold spaces.
  Words that are put together with a space between each two make a text that ends in no space, and
  two spaces stand side by side in it only where they do so in one of the words
  (`getLast?_intercalate_space`, `loneSpaces_intercalate_space`).
-/
import SyntheticTables.Text.Blank
import Mathlib.Data.List.Chain

namespace SyntheticTables.Text

/-- The characters of joined texts: those of the first, and then, for each that follows, the
    separator and its own. -/
theorem toList_intercalate_cons (separator first : String) (rest : List String) :
    (separator.intercalate (first :: rest)).toList
      = first.toList ++ rest.flatMap fun t => separator.toList ++ t.toList := by
  rw [String.toList_intercalate]
  induction rest generalizing first with
  | nil => simp
  | cons t rest ih =>
    rw [List.map_cons, List.map_cons, List.intercalate_cons_cons, ← List.map_cons, ih,
      List.flatMap_cons]
    simp only [List.append_assoc]

/-! ## Where a text is split -/

/-- Characters of one kind end where another kind follows, so texts that go on with another kind are
    split in one way only. -/
theorem append_inj_of_takeWhile {p : Char → Bool} {cs cs' r r' : List Char}
    (hcs : ∀ c ∈ cs, p c = true) (hcs' : ∀ c ∈ cs', p c = true) (hr : r.takeWhile p = [])
    (hr' : r'.takeWhile p = []) (h : cs ++ r = cs' ++ r') : cs = cs' ∧ r = r' := by
  have htake : ∀ {cs r : List Char}, (∀ c ∈ cs, p c = true) → r.takeWhile p = [] →
      (cs ++ r).takeWhile p = cs := by
    intro cs r hcs hr
    rw [List.takeWhile_append_of_pos hcs, hr, List.append_nil]
  have hfront : cs = cs' := by
    rw [← htake hcs hr, h, htake hcs' hr']
  rw [hfront] at h
  exact ⟨hfront, List.append_cancel_left h⟩

/-- The last place of a character is where it does not follow any more, and a text is split there in
    one way only. -/
theorem append_cons_inj_of_last {c : Char} {front front' back back' : List Char}
    (hback : c ∉ back) (hback' : c ∉ back') (h : front ++ c :: back = front' ++ c :: back') :
    front = front' ∧ back = back' := by
  -- backwards, it is the first place
  have hreverse : back.reverse ++ c :: front.reverse = back'.reverse ++ c :: front'.reverse := by
    simpa using congrArg List.reverse h
  have hother : ∀ {back : List Char}, c ∉ back → ∀ d ∈ back.reverse, (d != c) = true := by
    intro back hback d hd
    exact bne_iff_ne.mpr fun heq => hback (heq ▸ List.mem_reverse.mp hd)
  have hstop : ∀ rest : List Char, (c :: rest).takeWhile (· != c) = [] := by
    intro rest
    simp
  obtain ⟨hbacks, hfronts⟩ := append_inj_of_takeWhile (hother hback) (hother hback')
    (hstop front.reverse) (hstop front'.reverse) hreverse
  exact ⟨List.reverse_inj.mp (List.cons.inj hfronts).2, List.reverse_inj.mp hbacks⟩

/-! ## Words -/

/-- At least one character, and no blank at either end. -/
structure IsWord (cs : List Char) : Prop where
  nonempty : cs ≠ []
  first : ∀ c ∈ cs.head?, isBlank c = false
  last : ∀ c ∈ cs.getLast?, isBlank c = false

/-- Without the blanks at its front, a text does not begin with one. -/
theorem isBlank_head_dropWhile {cs : List Char} {c : Char}
    (h : (cs.dropWhile isBlank).head? = some c) : isBlank c = false := by
  have hfirst := List.head?_dropWhile_not isBlank cs
  rw [h] at hfirst
  exact hfirst

/-- What is left of a text without the blanks around it is a word, if anything is left. -/
theorem isWord_trimChars {cs : List Char} (h : trimChars cs ≠ []) : IsWord (trimChars cs) := by
  unfold trimChars at h ⊢
  refine ⟨h, fun c hc => ?_, fun c hc => ?_⟩
  · -- the blanks at the end go without touching the first character that stays
    rw [List.head?_reverse] at hc
    obtain ⟨dropped, hsplit⟩ := List.dropWhile_suffix isBlank (l := (cs.dropWhile isBlank).reverse)
    have hlast := congrArg List.getLast? hsplit
    rw [List.getLast?_append, Option.mem_def.mp hc, Option.some_or, List.getLast?_reverse] at hlast
    exact isBlank_head_dropWhile hlast.symm
  · rw [List.getLast?_reverse] at hc
    exact isBlank_head_dropWhile hc

/-- There is nothing to take away from a word. -/
theorem IsWord.trimChars_eq {cs : List Char} (h : IsWord cs) : trimChars cs = cs := by
  have hkeep : ∀ {ds : List Char}, (∀ c ∈ ds.head?, isBlank c = false) → ds.dropWhile isBlank = ds := by
    intro ds hfirst
    cases ds with
    | nil => rfl
    | cons c rest => rw [List.dropWhile_cons_of_neg (by simpa using hfirst c rfl)]
  unfold trimChars
  rw [hkeep h.first, hkeep (by rw [List.head?_reverse]; exact h.last), List.reverse_reverse]

/-- Trimming twice is trimming once: what it leaves is a word or nothing. -/
theorem trimChars_trimChars (cs : List Char) : trimChars (trimChars cs) = trimChars cs := by
  by_cases hempty : trimChars cs = []
  · rw [hempty]
    rfl
  · exact (isWord_trimChars hempty).trimChars_eq

/-- Characters that are exchanged for others of their kind do not change what is trimmed. -/
theorem trimChars_map {f : Char → Char} (hf : ∀ c, isBlank (f c) = isBlank c) (cs : List Char) :
    trimChars (cs.map f) = (trimChars cs).map f := by
  have hkind : isBlank ∘ f = isBlank := funext hf
  unfold trimChars
  rw [List.dropWhile_map, hkind, ← List.map_reverse, List.dropWhile_map, hkind, List.map_reverse]

namespace IsWord

variable {cs : List Char} (h : IsWord cs)

include h

/-- A word does not begin with a space. -/
theorem head?_ne_space : cs.head? ≠ some ' ' := fun hspace =>
  absurd (h.first ' ' hspace) (by decide)

/-- A word does not end in a space. -/
theorem getLast?_ne_space : cs.getLast? ≠ some ' ' := fun hspace =>
  absurd (h.last ' ' hspace) (by decide)

end IsWord

/-! ## Spaces -/

/-- A space at a place, and one behind it. -/
def TwoSpacesAt (cs : List Char) (i : Nat) : Prop := cs[i]? = some ' ' ∧ cs[i + 1]? = some ' '

/-- No two spaces stand side by side. -/
def LoneSpaces (cs : List Char) : Prop := cs.IsChain fun a b => a = ' ' → b ≠ ' '

/-- Where spaces are lone, two of them are found at no place. -/
theorem LoneSpaces.not_twoSpacesAt {cs : List Char} (h : LoneSpaces cs) (i : Nat) :
    ¬ TwoSpacesAt cs i := by
  rintro ⟨hfirst, hsecond⟩
  obtain ⟨hlt, hvalue⟩ := List.getElem?_eq_some_iff.mp hsecond
  obtain ⟨hlt', hvalue'⟩ := List.getElem?_eq_some_iff.mp hfirst
  exact List.isChain_iff_getElem.mp h i hlt hvalue' hvalue

/-- Words, each behind a space. -/
def following (words : List String) : List Char := words.flatMap fun w => ' ' :: w.toList

/-- Words joined by spaces are the first one, and then each other word behind a space. -/
theorem toList_intercalate_space (first : String) (rest : List String) :
    (" ".intercalate (first :: rest)).toList = first.toList ++ following rest :=
  toList_intercalate_cons " " first rest

/-- A word that follows a text ends it; the text before it does not matter any more. -/
theorem getLast?_append_word (cs : List Char) {w : String} (hw : IsWord w.toList) :
    (cs ++ ' ' :: w.toList).getLast? ≠ some ' ' := by
  have hsplit : cs ++ ' ' :: w.toList = (cs ++ [' ']) ++ w.toList := by simp
  rw [hsplit, List.getLast?_append]
  cases hlast : w.toList.getLast? with
  | none => exact absurd (List.getLast?_eq_none_iff.mp hlast) hw.nonempty
  | some c =>
    rw [Option.some_or, ← hlast]
    exact hw.getLast?_ne_space

/-- By induction on the words: the last of them ends the text, and if there is none the text ends as
    it did. -/
theorem getLast?_append_following {cs : List Char} (hcs : cs.getLast? ≠ some ' ')
    {words : List String} (hwords : ∀ w ∈ words, IsWord w.toList) :
    (cs ++ following words).getLast? ≠ some ' ' := by
  induction words generalizing cs with
  | nil => simpa [following] using hcs
  | cons w rest ih =>
    have hmore := ih (getLast?_append_word cs (hwords w List.mem_cons_self))
      fun u hu => hwords u (List.mem_cons_of_mem _ hu)
    simpa [following] using hmore

/-- Between words there is one space, so two of them stand side by side only inside a word.  By
    induction on the words; what stands before must not end in a space, and then neither does what
    stands before the next. -/
theorem loneSpaces_append_following {cs : List Char} (hcs : LoneSpaces cs)
    (hend : cs.getLast? ≠ some ' ') {words : List String}
    (hwords : ∀ w ∈ words, IsWord w.toList ∧ LoneSpaces w.toList) :
    LoneSpaces (cs ++ following words) := by
  induction words generalizing cs with
  | nil => simpa [following] using hcs
  | cons w rest ih =>
    obtain ⟨hword, hlone⟩ := hwords w List.mem_cons_self
    have hspace : LoneSpaces (' ' :: w.toList) := by
      refine List.isChain_cons.mpr ⟨fun c hc _ hblank => ?_, hlone⟩
      exact hword.head?_ne_space (hblank ▸ hc)
    have hjoined : LoneSpaces (cs ++ ' ' :: w.toList) := by
      refine List.IsChain.append hcs hspace fun c hc _ _ hblank => ?_
      exact absurd (hblank ▸ hc) hend
    have hmore := ih hjoined (getLast?_append_word cs hword)
      fun u hu => hwords u (List.mem_cons_of_mem _ hu)
    simpa [following] using hmore

/-! ## Words in a row -/

variable {words : List String}

/-- Words with a space between each two end in no space. -/
theorem getLast?_intercalate_space (h : ∀ w ∈ words, IsWord w.toList) :
    (" ".intercalate words).toList.getLast? ≠ some ' ' := by
  cases words with
  | nil => simp
  | cons first rest =>
    rw [toList_intercalate_space]
    exact getLast?_append_following (h first List.mem_cons_self).getLast?_ne_space
      fun w hw => h w (List.mem_cons_of_mem _ hw)

/-- Words with a space between each two have no spaces side by side, unless one of the words has. -/
theorem loneSpaces_intercalate_space
    (h : ∀ w ∈ words, IsWord w.toList ∧ LoneSpaces w.toList) :
    LoneSpaces (" ".intercalate words).toList := by
  cases words with
  | nil => exact List.IsChain.nil
  | cons first rest =>
    obtain ⟨hword, hlone⟩ := h first List.mem_cons_self
    rw [toList_intercalate_space]
    exact loneSpaces_append_following hlone hword.getLast?_ne_space
      fun w hw => h w (List.mem_cons_of_mem _ hw)

end SyntheticTables.Text
