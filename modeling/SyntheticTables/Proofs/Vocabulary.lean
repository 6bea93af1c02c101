/-
  The words of a vocabulary.

  Words come with the program, are given in lists, or are read from the files of a directory
  (`Wordlist`).  Wherever they come from, none is blank and none has a blank at either end
  (`Wordlist.isWord`): given words are trimmed when they are added, those of a file when they are
  read.  Blanks inside a word stay.
-/
import SyntheticTables.Proofs.Text.Joined
import SyntheticTables.Table.Row
import SyntheticTables.Vocabulary.Source

namespace SyntheticTables

open Text

/-! ## Cleaned words -/

/-- What trimming leaves of a text is a word, unless it is nothing. -/
theorem isWord_trim {s : String} (h : trim s ≠ "") : IsWord (trim s).toList := by
  rw [trim, String.toList_ofList]
  refine isWord_trimChars fun hnil => h ?_
  rw [trim, hnil, String.ofList_nil]

/-- Given words are trimmed, and those that were blank are dropped. -/
theorem isWord_of_mem_cleanWords {words : List String} {w : String} (h : w ∈ cleanWords words) :
    IsWord w.toList := by
  obtain ⟨hmem, hblank⟩ := List.mem_filter.mp h
  obtain ⟨raw, -, rfl⟩ := List.mem_map.mp hmem
  exact isWord_trim (of_decide_eq_true hblank)

/-- The lines of a file are treated alike; that comments are dropped as well makes no difference
    here. -/
theorem isWord_of_mem_wordsOfText {text w : String} (h : w ∈ wordsOfText text) :
    IsWord w.toList := by
  obtain ⟨hmem, hkeep⟩ := List.mem_filter.mp h
  obtain ⟨line, -, rfl⟩ := List.mem_map.mp hmem
  exact isWord_trim (of_decide_eq_true (Bool.and_eq_true_iff.mp hkeep).1)

/-- The words that come with the program are words as they stand.  It is enough to check that
    trimming leaves each of them alone. -/
theorem isWord_of_mem_bundledWords {w : String} (h : w ∈ bundledWords) : IsWord w.toList := by
  have hclean : ∀ w ∈ bundledWords, trim w = w ∧ w ≠ "" := by decide +kernel
  obtain ⟨htrim, hne⟩ := hclean w h
  have hword := isWord_trim (s := w) (by rwa [htrim])
  rwa [htrim] at hword

/-! ## Sources -/

/-- Only a list that was found can be used. -/
theorem eq_some_of_usableWords {locale : String} {found : Option (List String)}
    {words : List String} (h : usableWords locale found = .ok words) : found = some words := by
  unfold usableWords at h
  split at h
  · cases h
  · cases h
  · exact congrArg some (Except.ok.inj h)

/-- Lists that were added one after the other, each for its locale, to none at first. -/
inductive WordLists.Given : WordLists → Prop where
  | none : Given []
  | add {lists : WordLists} (h : Given lists) (locale : String) (words : List String) :
      Given (lists.add locale words)

/-- Lists that were added hold words only.  By induction on how they were added: a list takes the
    place of an older one for its locale, and the others stay. -/
theorem WordLists.Given.isWord {lists : WordLists} (h : lists.Given) :
    ∀ entry ∈ lists, ∀ w ∈ entry.2, IsWord w.toList := by
  induction h with
  | none => nofun
  | add _ locale words ih =>
    intro entry hentry w hw
    rcases Json.mem_insertMember hentry with rfl | hold
    · exact isWord_of_mem_cleanWords hw
    · exact ih entry hold w hw

/-- What is read for a locale, if there is a file for it, are words. -/
theorem isWord_of_readWords {read : FileReader} {directory locale : String}
    {found : Option (List String)} (h : readWords read directory locale = .ok found) :
    ∀ words ∈ found, ∀ w ∈ words, IsWord w.toList := by
  unfold readWords at h
  split at h
  · cases h
    rintro _ ⟨⟩ w hw
    exact isWord_of_mem_wordsOfText hw
  · cases h
    nofun
  · cases h

namespace WordDirectory

/-- A directory after some lookups, each among the files as they were then. -/
inductive Visited : WordDirectory → Prop where
  | ofPath (path : String) : Visited (ofPath path)
  | lookup {d : WordDirectory} (h : Visited d) (read : FileReader) (locale : String) :
      Visited (d.wordlist read locale).2

/-- The lists that a directory remembers. -/
def Remembers (d : WordDirectory) (words : List String) : Prop :=
  ∃ locale, (locale, some words) ∈ d.found

variable {d : WordDirectory} {read : FileReader} {locale : String} {words : List String}

/-- A lookup remembers what it read, if anything, and what was remembered before.  Hence whatever is
    remembered was read at some time. -/
theorem remembers_of_lookup (h : (d.wordlist read locale).2.Remembers words) :
    d.Remembers words ∨ readWords read d.path locale = .ok (some words) := by
  unfold wordlist at h
  split at h
  · exact .inl h
  · split at h
    · exact .inl h
    · rename_i found hread
      obtain ⟨name, hmem⟩ := h
      rcases List.mem_cons.mp hmem with hnew | hold
      · cases hnew
        exact .inr hread
      · exact .inl ⟨name, hold⟩

/-- A list is given from memory or as it was read, and in neither case changed: only an empty list,
    or none, is turned into an error. -/
theorem remembers_of_wordlist (h : (d.wordlist read locale).1 = .ok words) :
    d.Remembers words ∨ readWords read d.path locale = .ok (some words) := by
  unfold wordlist at h
  split at h
  · rename_i found hfound
    cases eq_some_of_usableWords h
    obtain ⟨entry, hentry, hwords⟩ := Option.map_eq_some_iff.mp hfound
    have hmem := List.mem_of_find?_eq_some hentry
    exact .inl ⟨entry.1, hwords ▸ hmem⟩
  · split at h
    · cases h
    · rename_i found hread
      cases eq_some_of_usableWords h
      exact .inr hread

/-- All that a directory ever remembers are words, since it was read in some lookup. -/
theorem Visited.isWord (h : d.Visited) : ∀ words, d.Remembers words → ∀ w ∈ words, IsWord w.toList := by
  induction h with
  | ofPath path => rintro words ⟨_, ⟨⟩⟩
  | lookup _ read locale ih =>
    intro words hwords
    rcases remembers_of_lookup hwords with hold | hread
    · exact ih words hold
    · exact isWord_of_readWords hread words rfl

end WordDirectory

/-! ## Lists of words -/

/-- A list of words that a source gives: the program itself, lists that were added, or a directory
    after any lookups. -/
inductive Wordlist (words : List String) : Prop where
  | bundled (locale : String) (h : bundledList locale = .ok words)
  | given {lists : WordLists} (hlists : lists.Given) (locale : String)
      (h : lists.wordlist locale = .ok words)
  | read {d : WordDirectory} (hd : d.Visited) (read : FileReader) (locale : String)
      (h : (d.wordlist read locale).1 = .ok words)

/-- Wherever it comes from, a word is not blank and has no blank at either end.  The cases are the
    three kinds of source. -/
theorem Wordlist.isWord {words : List String} (h : Wordlist words) :
    ∀ w ∈ words, IsWord w.toList := by
  intro w hw
  cases h with
  | bundled locale h =>
    unfold bundledList at h
    split at h
    · exact isWord_of_mem_bundledWords (Except.ok.inj h ▸ hw)
    · cases h
  | given hlists locale h =>
    obtain ⟨entry, hentry, rfl⟩ := Option.map_eq_some_iff.mp (eq_some_of_usableWords h)
    exact hlists.isWord entry (List.mem_of_find?_eq_some hentry) w hw
  | read hd read locale h =>
    rcases WordDirectory.remembers_of_wordlist h with hold | hread
    · exact hd.isWord words hold w hw
    · exact isWord_of_readWords hread words rfl w hw

end SyntheticTables
