/-
  Lookups in a directory of word files, one after the other.

  Between two lookups the files may change in any way, so each lookup comes with the files as they
  are then.  What a directory remembers for a locale is what the first lookup found that could read
  the file or saw that there is none (`WordDirectory.found?_after`).  An answer is therefore that of
  an uncached read at this moment, or at the present one if there was no such lookup
  (`WordDirectory.answer_after`).
-/
import SyntheticTables.Proofs.Text.Joined
import SyntheticTables.Vocabulary.Source

namespace SyntheticTables

/-! ## Spellings -/

/-- A normalized locale is its own spelling, so all spellings of a locale meet in one entry.
    Hyphens become underscores, and neither is a blank, so trimming and replacing do not get in each
    other's way. -/
theorem normalizeLocale_normalizeLocale (locale : String) :
    normalizeLocale (normalizeLocale locale) = normalizeLocale locale := by
  have hblank : ∀ c : Char, Text.isBlank (if c = '-' then '_' else c) = Text.isBlank c := by
    intro c
    by_cases hc : c = '-'
    · rw [if_pos hc, hc]
      decide
    · rw [if_neg hc]
  have htwice : ((fun c : Char => if c = '-' then '_' else c) ∘ fun c => if c = '-' then '_' else c)
      = fun c => if c = '-' then '_' else c := by
    funext c
    by_cases hc : c = '-'
    · simp [hc]
    · simp [hc]
  unfold normalizeLocale
  rw [String.toList_ofList, Text.trimChars_map hblank, Text.trimChars_trimChars, List.map_map,
    htwice]

/-- What is found for a locale is never refused for the reading. -/
theorem usableWords_ne_unreadable {locale path : String} {cause : FileError}
    (found : Option (List String)) : usableWords locale found ≠ .error (.unreadable path cause) := by
  unfold usableWords
  intro h
  split at h
  · cases h
  · cases h
  · cases h

/-! ## One lookup -/

/-- A locale that is looked up among the files as they are at that moment. -/
structure Lookup where
  files : FileReader
  locale : String

namespace Lookup

/-- The answer of a read that remembers nothing. -/
def fresh (l : Lookup) (path : String) : Except VocabularyError (List String) :=
  freshWords l.files path l.locale

/-- What a read finds, a list or no file, unless it fails. -/
def reading? (l : Lookup) (path : String) : Option (Option (List String)) :=
  (readWords l.files path l.locale).toOption

/-- Whether a locale is spelled in one way or another. -/
def IsFor (l : Lookup) (locale : String) : Prop := normalizeLocale l.locale = normalizeLocale locale

instance (l : Lookup) (locale : String) : Decidable (l.IsFor locale) :=
  inferInstanceAs (Decidable (normalizeLocale l.locale = normalizeLocale locale))

/-- A lookup for a locale after which the file does not matter any more. -/
def settles (l : Lookup) (path locale : String) : Bool :=
  l.IsFor locale && (l.reading? path).isSome

variable {l : Lookup} {path : String}

/-- Both of its conditions at once: the locale is the one in question, and the read did not fail. -/
theorem settles_iff {locale : String} :
    l.settles path locale = true ↔ l.IsFor locale ∧ (l.reading? path).isSome = true := by
  rw [settles, Bool.and_eq_true, decide_eq_true_eq]

/-- A read finds something when it does not fail; that there is no file for the locale is something
    found. -/
theorem reading?_eq_some_iff {entry : Option (List String)} :
    l.reading? path = some entry ↔ readWords l.files path l.locale = .ok entry := by
  unfold reading?
  cases readWords l.files path l.locale with
  | error e => exact ⟨nofun, nofun⟩
  | ok found =>
    constructor
    · intro h
      cases h
      rfl
    · intro h
      cases h
      rfl

/-- The answer of an uncached read, in terms of what it finds. -/
theorem fresh_of_reading? {entry : Option (List String)} (h : l.reading? path = some entry) :
    l.fresh path = usableWords (normalizeLocale l.locale) entry := by
  unfold fresh freshWords
  rw [reading?_eq_some_iff.mp h]
  rfl

end Lookup

namespace WordDirectory

variable {d : WordDirectory} {l : Lookup}

/-- What a lookup is answered, from memory or from the files. -/
def answer (d : WordDirectory) (l : Lookup) : Except VocabularyError (List String) :=
  (d.wordlist l.files l.locale).1

/-- The directory after a lookup. -/
def visit (d : WordDirectory) (l : Lookup) : WordDirectory := (d.wordlist l.files l.locale).2

/-- The directory after some lookups. -/
def after (d : WordDirectory) (ls : List Lookup) : WordDirectory := ls.foldl visit d

/-- Lookups in a row may be cut anywhere. -/
theorem after_append (d : WordDirectory) (ls ls' : List Lookup) :
    d.after (ls ++ ls') = (d.after ls).after ls' :=
  List.foldl_append

/-- What was found is answered, and nothing changes. -/
theorem wordlist_of_found {entry : Option (List String)} (h : d.found? l.locale = some entry) :
    d.wordlist l.files l.locale = (usableWords (normalizeLocale l.locale) entry, d) := by
  unfold wordlist
  rw [h]

/-- A file that could not be read leaves nothing behind. -/
theorem wordlist_of_error {e : VocabularyError} (h : d.found? l.locale = none)
    (hread : readWords l.files d.path l.locale = .error e) :
    d.wordlist l.files l.locale = (.error e, d) := by
  unfold wordlist
  rw [h, hread]

/-- A read that does not fail is answered and remembered, even if there is no file. -/
theorem wordlist_of_ok {entry : Option (List String)} (h : d.found? l.locale = none)
    (hread : readWords l.files d.path l.locale = .ok entry) :
    d.wordlist l.files l.locale = (usableWords (normalizeLocale l.locale) entry,
      { d with found := (normalizeLocale l.locale, entry) :: d.found }) := by
  unfold wordlist
  rw [h, hread]

/-- Where nothing is remembered, the answer is that of an uncached read. -/
theorem answer_of_not_found (h : d.found? l.locale = none) : d.answer l = l.fresh d.path := by
  unfold answer Lookup.fresh freshWords
  cases hread : readWords l.files d.path l.locale with
  | error e =>
    rw [wordlist_of_error h hread]
    rfl
  | ok entry =>
    rw [wordlist_of_ok h hread]
    rfl

/-- A lookup that fails for the reading found nothing before, and remembers nothing.  Any other
    failure is about the words that were found, and would be an error of its own. -/
theorem visit_of_unreadable {path : String} {cause : FileError}
    (h : d.answer l = .error (.unreadable path cause)) :
    d.visit l = d ∧ d.found? l.locale = none := by
  unfold answer at h
  unfold visit
  cases hfound : d.found? l.locale with
  | some entry =>
    rw [wordlist_of_found hfound] at h
    exact absurd h (usableWords_ne_unreadable entry)
  | none =>
    cases hread : readWords l.files d.path l.locale with
    | error e =>
      rw [wordlist_of_error hfound hread]
      exact ⟨rfl, rfl⟩
    | ok entry =>
      rw [wordlist_of_ok hfound hread] at h
      exact absurd h (usableWords_ne_unreadable entry)

/-- A lookup changes nothing, or remembers what it read; the former only if something was known
    before or the read failed. -/
theorem visit_cases (d : WordDirectory) (l : Lookup) :
    (d.visit l = d ∧ (d.found? l.locale = none → l.reading? d.path = none)) ∨
    ∃ entry, d.found? l.locale = none ∧ l.reading? d.path = some entry ∧
      d.visit l = { d with found := (normalizeLocale l.locale, entry) :: d.found } := by
  unfold visit Lookup.reading?
  cases hfound : d.found? l.locale with
  | some entry =>
    rw [wordlist_of_found hfound]
    exact Or.inl ⟨rfl, nofun⟩
  | none =>
    cases hread : readWords l.files d.path l.locale with
    | error e =>
      rw [wordlist_of_error hfound hread]
      exact Or.inl ⟨rfl, fun _ => rfl⟩
    | ok entry =>
      rw [wordlist_of_ok hfound hread]
      exact Or.inr ⟨entry, rfl, rfl, rfl⟩

/-- No lookup changes where the directory is. -/
theorem path_visit (d : WordDirectory) (l : Lookup) : (d.visit l).path = d.path := by
  rcases d.visit_cases l with ⟨hvisit, -⟩ | ⟨entry, -, -, hvisit⟩
  · rw [hvisit]
  · rw [hvisit]

/-- All spellings of a locale have one entry. -/
theorem found?_of_isFor {locale : String} (h : l.IsFor locale) :
    d.found? l.locale = d.found? locale := by
  have hlocale : normalizeLocale l.locale = normalizeLocale locale := h
  unfold found?
  rw [hlocale]

/-- A new entry answers for all spellings of its locale, and for no other locale. -/
theorem found?_cons {locale : String} {entry : Option (List String)} :
    { d with found := (normalizeLocale l.locale, entry) :: d.found }.found? locale
      = if l.IsFor locale then some entry else d.found? locale := by
  unfold found?
  by_cases hsame : normalizeLocale l.locale = normalizeLocale locale
  · simp [Lookup.IsFor, hsame]
  · simp [Lookup.IsFor, hsame]

/-- What a lookup adds to the memory: what it read for its own locale, if that was not known.  Other
    locales are not touched, and what was known is not read again. -/
theorem found?_visit (d : WordDirectory) (l : Lookup) (locale : String) :
    (d.visit l).found? locale = (d.found? locale).or
      (if l.IsFor locale then l.reading? d.path else none) := by
  rcases d.visit_cases l with ⟨hvisit, hnone⟩ | ⟨entry, hfound, hreading, hvisit⟩
  · rw [hvisit]
    by_cases hsame : l.IsFor locale
    · rw [if_pos hsame, ← found?_of_isFor hsame]
      cases hfound : d.found? l.locale with
      | some entry => rfl
      | none => rw [hnone hfound, Option.none_or]
    · rw [if_neg hsame, Option.or_none]
  · rw [hvisit, found?_cons, hreading]
    by_cases hsame : l.IsFor locale
    · rw [if_pos hsame, if_pos hsame, ← found?_of_isFor hsame, hfound, Option.none_or]
    · rw [if_neg hsame, if_neg hsame, Option.or_none]

/-! ## Lookups in a row -/

/-- Nor do several lookups. -/
theorem path_after (d : WordDirectory) (ls : List Lookup) : (d.after ls).path = d.path := by
  induction ls generalizing d with
  | nil => rfl
  | cons l rest ih =>
    have hrest : d.after (l :: rest) = (d.visit l).after rest := rfl
    rw [hrest, ih, d.path_visit]

/-- The first lookup for a locale that could read the file or saw that there is none. -/
def firstSettling? (path locale : String) (ls : List Lookup) : Option Lookup :=
  ls.find? (·.settles path locale)

/-- The first settling lookup settles. -/
theorem settles_of_firstSettling? {path locale : String} {ls : List Lookup}
    (h : firstSettling? path locale ls = some l) : l.settles path locale = true := by
  unfold firstSettling? at h
  have hsettles := List.find?_some h
  exact hsettles

/-- A directory remembers what the first such lookup found, if it knew nothing before.  By induction
    on the lookups, from any memory: each adds to it only for its own locale. -/
theorem found?_after (d : WordDirectory) (ls : List Lookup) (locale : String) :
    (d.after ls).found? locale
      = (d.found? locale).or ((firstSettling? d.path locale ls).bind (·.reading? d.path)) := by
  induction ls generalizing d with
  | nil => simp [after, firstSettling?]
  | cons l rest ih =>
    have hrest : d.after (l :: rest) = (d.visit l).after rest := rfl
    have hfirst : (if l.IsFor locale then l.reading? d.path else none).or
          ((firstSettling? d.path locale rest).bind (·.reading? d.path))
        = (firstSettling? d.path locale (l :: rest)).bind (·.reading? d.path) := by
      unfold firstSettling?
      by_cases hsame : l.IsFor locale
      · rw [if_pos hsame]
        cases hreading : l.reading? d.path with
        | some entry => simp [Lookup.settles, hsame, hreading]
        | none => simp [Lookup.settles, hreading]
      · simp [Lookup.settles, hsame]
    rw [hrest, ih, d.path_visit, found?_visit, Option.or_assoc, hfirst]

/-- Every answer is that of an uncached read: at the moment when the file could first be read or was
    first seen to be missing, or at present if there was no such moment. -/
theorem answer_after (path : String) (ls : List Lookup) (l : Lookup) :
    ((ofPath path).after ls).answer l
      = ((firstSettling? path l.locale ls).getD l).fresh path := by
  have hfound := found?_after (ofPath path) ls l.locale
  have hpath : ((ofPath path).after ls).path = path := path_after (ofPath path) ls
  have hempty : (ofPath path).found? l.locale = none := rfl
  rw [hempty, Option.none_or] at hfound
  -- without a settling lookup nothing is remembered, so this very lookup reads the files
  cases hfirst : firstSettling? path l.locale ls with
  | none =>
    rw [show (ofPath path).path = path from rfl, hfirst] at hfound
    rw [answer_of_not_found hfound, hpath]
    rfl
  | some first =>
    rw [show (ofPath path).path = path from rfl, hfirst, Option.bind_some] at hfound
    obtain ⟨hfor, hsome⟩ := Lookup.settles_iff.mp (settles_of_firstSettling? hfirst)
    obtain ⟨entry, hentry⟩ := Option.isSome_iff_exists.mp hsome
    have hlocale : normalizeLocale first.locale = normalizeLocale l.locale := hfor
    rw [hentry] at hfound
    unfold answer
    rw [wordlist_of_found hfound, Option.getD_some, Lookup.fresh_of_reading? hentry, hlocale]

section First

variable {path : String} {before between : List Lookup} {first : Lookup}

/-- If every lookup of a locale fails, none settles it. -/
theorem firstSettling?_eq_none
    (hbefore : ∀ l ∈ before, l.IsFor first.locale → l.reading? path = none) {locale : String}
    (hlocale : first.IsFor locale) : firstSettling? path locale before = none := by
  refine List.find?_eq_none.mpr ?_
  intro l hl hsettles
  obtain ⟨hfor, hsome⟩ := Lookup.settles_iff.mp hsettles
  have hsame : l.IsFor first.locale := hfor.trans hlocale.symm
  rw [hbefore l hl hsame] at hsome
  cases hsome

/-- A lookup settles a locale if none did before, whatever comes after it. -/
theorem firstSettling?_append
    (hbefore : ∀ l ∈ before, l.IsFor first.locale → l.reading? path = none)
    (hfirst : (first.reading? path).isSome = true) {locale : String}
    (hlocale : first.IsFor locale) :
    firstSettling? path locale (before ++ first :: between) = some first := by
  have hnone := firstSettling?_eq_none hbefore hlocale
  unfold firstSettling? at hnone ⊢
  rw [List.find?_append, hnone, Option.none_or]
  exact List.find?_cons_of_pos (Lookup.settles_iff.mpr ⟨hlocale, hfirst⟩)

end First

/-- The first read of a locale that does not fail is what all later lookups answer, however the
    locale is spelled and whatever becomes of the files; a read that fails leaves nothing behind; and
    lookups of other locales do not matter. -/
theorem first_read_wins (path : String) :
    (∀ ls l, ((ofPath path).after ls).answer l
      = ((firstSettling? path l.locale ls).getD l).fresh path) ∧
    (∀ before first, (∀ l ∈ before, l.IsFor first.locale → l.reading? path = none) →
      (first.reading? path).isSome = true →
      ((ofPath path).after before).answer first = first.fresh path ∧
      ∀ between later, later.IsFor first.locale →
        ((ofPath path).after (before ++ first :: between)).answer later = first.fresh path) ∧
    (∀ before l file cause,
      ((ofPath path).after before).answer l = .error (.unreadable file cause) →
      (ofPath path).after (before ++ [l]) = (ofPath path).after before ∧
      ∀ next, next.IsFor l.locale →
        ((ofPath path).after (before ++ [l])).answer next = next.fresh path) ∧
    (∀ ls l, ((ofPath path).after ls).answer l
      = ((ofPath path).after (ls.filter fun l' => l'.IsFor l.locale)).answer l) ∧
    ∀ l : Lookup, l.IsFor (normalizeLocale l.locale) := by
  refine ⟨answer_after path, ?_, ?_, ?_, ?_⟩
  · intro before first hbefore hfirst
    constructor
    · rw [answer_after, firstSettling?_eq_none hbefore rfl, Option.getD_none]
    · intro between later hlater
      rw [answer_after, firstSettling?_append hbefore hfirst hlater.symm, Option.getD_some]
  · intro before l file cause hanswer
    obtain ⟨hvisit, hnone⟩ := visit_of_unreadable hanswer
    -- a file that could not be read is not kept, so nothing has changed
    have hafter : (ofPath path).after (before ++ [l]) = (ofPath path).after before := by
      rw [after_append]
      exact hvisit
    refine ⟨hafter, ?_⟩
    intro next hnext
    have hfound : ((ofPath path).after before).found? next.locale = none :=
      (found?_of_isFor hnext).trans hnone
    rw [hafter, answer_of_not_found hfound, path_after]
    rfl
  · intro ls l
    -- only a lookup for this locale can settle it
    have hfirst : firstSettling? path l.locale (ls.filter fun l' => l'.IsFor l.locale)
        = firstSettling? path l.locale ls := by
      unfold firstSettling?
      rw [List.find?_filter]
      simp [Lookup.settles]
    rw [answer_after, answer_after, hfirst]
  · intro l
    exact (normalizeLocale_normalizeLocale l.locale).symm

/-- A lookup of `en-US` whose file cannot be read, because a directory lies in its place. -/
def refused : Lookup := ⟨fun _ => .error .isADirectory, "en-US"⟩

/-- A lookup of the same locale in another spelling, when the file holds two words. -/
def listed : Lookup := ⟨fun _ => .ok "alpha\nbeta", " en_US"⟩

/-- A lookup of `en-US` when the file is gone. -/
def vanished : Lookup := ⟨fun _ => .error .notFound, "en-US"⟩

/-- In the directory `words`, the file of `en-US` cannot be read at first, then holds `alpha` and
    `beta`, and is gone in the end, after a lookup of `fr`.  The first lookup leaves no trace, the
    second reads the two words, and the last is still answered with them. -/
theorem first_read_wins_vanished :
    (ofPath "words").after [refused] = ofPath "words" ∧
    ((ofPath "words").after [refused]).answer listed = .ok ["alpha", "beta"] ∧
    ((ofPath "words").after [refused, listed, ⟨vanished.files, "fr"⟩]).answer vanished
      = .ok ["alpha", "beta"] := by
  obtain ⟨-, hfirst, hunreadable, -, -⟩ := first_read_wins "words"
  have hfresh : listed.fresh "words" = .ok ["alpha", "beta"] := by
    -- two lines, none of them a comment
    have hwords : wordsOfText "alpha\nbeta" = ["alpha", "beta"] := by
      have halpha : "alpha".startsWith "#" = false := by
        rw [Bool.eq_false_iff, ne_eq, String.startsWith_string_iff]
        decide
      have hbeta : "beta".startsWith "#" = false := by
        rw [Bool.eq_false_iff, ne_eq, String.startsWith_string_iff]
        decide
      have hlines : (Text.lines "alpha\nbeta").map Text.trim = ["alpha", "beta"] := by
        decide +kernel
      rw [wordsOfText, hlines]
      simp [halpha, hbeta]
    show usableWords _ (some (wordsOfText "alpha\nbeta")) = _
    rw [hwords]
    rfl
  have hbefore : ∀ l ∈ [refused], l.IsFor listed.locale → l.reading? "words" = none := by
    intro l hl _
    rw [List.mem_singleton.mp hl]
    rfl
  obtain ⟨hanswer, hlater⟩ := hfirst [refused] listed hbefore rfl
  refine ⟨?_, hanswer.trans hfresh, ?_⟩
  · exact (hunreadable [] refused _ .isADirectory rfl).1
  · exact (hlater [⟨vanished.files, "fr"⟩] vanished (by decide +kernel)).trans hfresh

end WordDirectory

end SyntheticTables
