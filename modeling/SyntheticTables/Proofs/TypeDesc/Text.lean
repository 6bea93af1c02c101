/-
  Normal types are read off their texts.

  Only the items of a sequence stand in brackets; a union is its alternatives with bars between
  them, and nothing at all if it has none.  Still a text can be read in one way only.  An alternative
  begins with a word that tells which kind of type it is, and the word ends where no letter follows
  (`cases_of_word`).  Behind an alternative comes a bar, a closing bracket or the end, and behind a
  whole type no bar.  So the bars at which a text has to be split are found one after the other: the
  item of a sequence, with all bars in it, has been read when the bracket comes that closes it
  (`legible_of_mem_alternatives`).  A normal type is determined by its alternatives, hence by its
  text, wherever that stands (`text_append_inj`).  That the alternatives ascend plays no part in it.
-/
import Mathlib.Data.List.Nodup
import SyntheticTables.Proofs.Text.Joined
import SyntheticTables.Proofs.TypeDesc.Union

namespace SyntheticTables

/-! ## Words -/

/-- A character of the words in the texts of types. -/
def TypeDesc.isWordChar (c : Char) : Bool := c.isLower || c = '_'

namespace Nominal

/-- The names of kinds are made of word characters. -/
theorem isWordChar_name (n : Nominal) : ∀ c ∈ n.name.toList, TypeDesc.isWordChar c = true :=
  List.all_eq_true.mp (by cases n <;> decide)

/-- Different kinds have different names. -/
theorem name_inj {m n : Nominal} (h : m.name = n.name) : m = n := by
  have hdistinct : (all.map name).Nodup := by decide
  exact List.inj_on_of_nodup_map hdistinct (mem_all m) (mem_all n) h

/-- No kind has the name of what is no kind. -/
theorem name_ne (n : Nominal) : n.name ≠ "any" ∧ n.name ≠ "seq" ∧ n.name ≠ "" := by
  cases n <;> decide

end Nominal

namespace TypeDesc

/-- The word that the text of a type begins with, unless the type is a union. -/
def word : TypeDesc → String
  | .any => "any"
  | .prim n => n.name
  | .seq _ => "seq"
  | .union _ => ""

/-- What stands behind that word. -/
def behindWord : TypeDesc → List Char
  | .seq item => '[' :: (item.text.toList ++ [']'])
  | _ => []

/-- The text of an alternative is its word and what stands behind it. -/
theorem toList_text_of_not_union {a : TypeDesc} (ha : a.isUnion = false) :
    a.text.toList = a.word.toList ++ a.behindWord := by
  cases a with
  | union ms => cases ha
  | _ => simp [text, word, behindWord]

/-- The word of a type is made of word characters. -/
theorem isWordChar_word (a : TypeDesc) : ∀ c ∈ a.word.toList, isWordChar c = true := by
  cases a with
  | any => exact List.all_eq_true.mp (by decide : "any".toList.all isWordChar = true)
  | prim n => exact n.isWordChar_name
  | seq item => exact List.all_eq_true.mp (by decide : "seq".toList.all isWordChar = true)
  | union ms => exact nofun

/-- An alternative has a word. -/
theorem word_ne_empty {a : TypeDesc} (ha : a.isUnion = false) : a.word ≠ "" := by
  cases a with
  | any => exact (by decide : "any" ≠ "")
  | prim n => exact n.name_ne.2.2
  | seq item => exact (by decide : "seq" ≠ "")
  | union ms => cases ha

/-- The word says which type it is, or that it is a sequence.  Unions are left out, since their text
    has no word of its own. -/
theorem cases_of_word {a b : TypeDesc} (ha : a.isUnion = false) (hb : b.isUnion = false)
    (h : a.word = b.word) : a = b ∨ ∃ item item', a = .seq item ∧ b = .seq item' := by
  -- the names of the three kinds of types differ, and so do those of the primitive types
  cases a with
  | any =>
    cases b with
    | any => exact .inl rfl
    | prim n => exact absurd h.symm n.name_ne.1
    | seq item => exact absurd h (by decide : "any" ≠ "seq")
    | union ms => cases hb
  | prim m =>
    cases b with
    | any => exact absurd h m.name_ne.1
    | prim n => exact .inl (congrArg prim (Nominal.name_inj h))
    | seq item => exact absurd h m.name_ne.2.1
    | union ms => cases hb
  | seq item =>
    cases b with
    | any => exact absurd h (by decide : "seq" ≠ "any")
    | prim n => exact absurd h.symm n.name_ne.2.1
    | seq item' => exact .inr ⟨item, item', rfl, rfl⟩
    | union ms => cases hb
  | union ms => cases ha

/-! ## What follows on a text -/

/-- What may stand behind an alternative: a bar with its spaces, a closing bracket, or nothing. -/
def EndsAlternative (r : List Char) : Prop := ∀ c ∈ r.head?, c = ' ' ∨ c = ']'

/-- What may stand behind a type as a whole: a closing bracket or nothing. -/
def EndsType (r : List Char) : Prop := ∀ c ∈ r.head?, c = ']'

/-- Where a type may end, an alternative may. -/
theorem EndsType.endsAlternative {r : List Char} (h : EndsType r) : EndsAlternative r :=
  fun c hc => .inr (h c hc)

/-- A closing bracket ends a type. -/
theorem endsType_bracket (r : List Char) : EndsType (']' :: r) := by
  intro c hc
  exact (Option.some.inj hc).symm

/-- No letter follows on the word of an alternative. -/
theorem takeWhile_behindWord (a : TypeDesc) {r : List Char} (hr : EndsAlternative r) :
    (a.behindWord ++ r).takeWhile isWordChar = [] := by
  have hstop : r.takeWhile isWordChar = [] := by
    cases r with
    | nil => rfl
    | cons c rest =>
      rcases hr c rfl with rfl | rfl <;> rfl
  cases a with
  | seq item => rfl
  | _ => exact hstop

/-! ## Alternatives -/

/-- What is no union is its own alternative. -/
theorem mem_alternatives_self {a : TypeDesc} (ha : a.isUnion = false) : a ∈ a.alternatives := by
  cases a with
  | union ms => cases ha
  | _ => exact List.mem_singleton_self _

/-- The members of a union are written one by one. -/
theorem texts_eq_map (ts : List TypeDesc) : texts ts = ts.map text := by
  induction ts with
  | nil => rfl
  | cons t rest ih => rw [texts, ih, List.map_cons]

/-- The text of a type is that of its alternatives with bars between them. -/
theorem text_eq_intercalate (t : TypeDesc) :
    t.text = " | ".intercalate (t.alternatives.map text) := by
  cases t with
  | union ms => rw [text, texts_eq_map, alternatives]
  | _ => rfl

/-- The texts of alternatives, each with a bar in front. -/
def barred (ts : List TypeDesc) : List Char := ts.flatMap fun t => " | ".toList ++ t.text.toList

/-- Behind one more bar, a type that has alternatives is written as these, each behind a bar. -/
theorem barred_alternatives {t a : TypeDesc} {rest : List TypeDesc}
    (h : t.alternatives = a :: rest) :
    barred t.alternatives = " | ".toList ++ t.text.toList := by
  rw [text_eq_intercalate, h, List.map_cons, Text.toList_intercalate_cons, List.flatMap_map, barred,
    List.flatMap_cons, List.append_assoc]

/-- More alternatives behind one end it with a bar. -/
theorem endsAlternative_barred (ts : List TypeDesc) {r : List Char} (hr : EndsType r) :
    EndsAlternative (barred ts ++ r) := by
  cases ts with
  | nil => exact hr.endsAlternative
  | cons t rest =>
    intro c hc
    exact .inl (Option.some.inj hc).symm

/-- More alternatives do not end a type. -/
theorem not_endsType_barred (t : TypeDesc) (rest : List TypeDesc) (r : List Char) :
    ¬ EndsType (barred (t :: rest) ++ r) := by
  intro hends
  exact absurd (hends ' ' rfl) (by decide)

/-- A normal type is determined by its alternatives, since none of them stands alone in a union. -/
theorem Normal.eq_of_alternatives {a b : TypeDesc} (ha : a.Normal) (hb : b.Normal)
    (h : a.alternatives = b.alternatives) : a = b := by
  cases a with
  | union ms =>
    cases b with
    | union ns => exact congrArg union h
    | _ => exact absurd (congrArg List.length h) ha.2.1
  | _ =>
    cases b with
    | union ns => exact absurd (congrArg List.length h.symm) hb.2.1
    | _ => exact (List.cons.inj h).1

/-! ## Reading -/

/-- The text of an alternative tells it apart from the other ones and shows where it ends. -/
def Legible (a : TypeDesc) : Prop :=
  ∀ (b : TypeDesc) (r r' : List Char), b.isUnion = false → b.Normal → EndsAlternative r →
    EndsAlternative r' → a.text.toList ++ r = b.text.toList ++ r' → a = b ∧ r = r'

/-- Legible alternatives are read one after the other.  By induction on the first list: both lists
    end where no bar follows. -/
theorem barred_append_inj {as bs : List TypeDesc} (has : ∀ a ∈ as, a.Legible)
    (hbs : ∀ b ∈ bs, b.isUnion = false ∧ b.Normal) {r r' : List Char} (hr : EndsType r)
    (hr' : EndsType r') (h : barred as ++ r = barred bs ++ r') : as = bs ∧ r = r' := by
  induction as generalizing bs with
  | nil =>
    cases bs with
    | nil => exact ⟨rfl, h⟩
    | cons b bs =>
      -- the one list is over while the other goes on with a bar, which ends no type
      have hends : EndsType (barred (b :: bs) ++ r') := by
        rw [← h]
        exact hr
      exact absurd hends (not_endsType_barred b bs r')
  | cons a as ih =>
    cases bs with
    | nil =>
      have hends : EndsType (barred (a :: as) ++ r) := by
        rw [h]
        exact hr'
      exact absurd hends (not_endsType_barred a as r)
    | cons b bs =>
      obtain ⟨ha, hmore⟩ := List.forall_mem_cons.mp has
      obtain ⟨⟨hunion, hnormal⟩, hothers⟩ := List.forall_mem_cons.mp hbs
      -- the first alternatives are the same by what is known of them, then the rest by induction
      have htexts : a.text.toList ++ (barred as ++ r) = b.text.toList ++ (barred bs ++ r') := by
        simpa [barred] using h
      obtain ⟨rfl, hrest⟩ := ha b _ _ hunion hnormal (endsAlternative_barred as hr)
        (endsAlternative_barred bs hr') htexts
      obtain ⟨rfl, hend⟩ := ih hmore hothers hrest
      exact ⟨rfl, hend⟩

/-- Only the union of nothing has no text; every other type begins with a letter, which ends no
    type.  So two texts of types are empty together or not at all. -/
theorem endsType_text_iff {t : TypeDesc} (ht : t.Normal) {r : List Char} (hr : EndsType r) :
    EndsType (t.text.toList ++ r) ↔ t.alternatives = [] := by
  constructor
  · intro hends
    cases h : t.alternatives with
    | nil => rfl
    | cons a rest =>
      -- the first character is a letter of the first alternative
      have ha : a.isUnion = false := (ht.alternatives a (by rw [h]; exact List.mem_cons_self)).1
      obtain ⟨c, cs, hword⟩ : ∃ c cs, a.word.toList = c :: cs :=
        List.exists_cons_of_ne_nil fun hnil => word_ne_empty ha (String.toList_eq_nil_iff.mp hnil)
      have hhead : (t.text.toList ++ r).head? = some c := by
        rw [text_eq_intercalate, h, List.map_cons, Text.toList_intercalate_cons,
          toList_text_of_not_union ha, hword]
        rfl
      have hletter : isWordChar c = true :=
        a.isWordChar_word c (by rw [hword]; exact List.mem_cons_self)
      rw [hends c hhead] at hletter
      exact absurd hletter (by decide)
  · intro h
    have hempty : t.text.toList = [] := by rw [text_eq_intercalate, h]; rfl
    rw [hempty]
    exact hr

/-- A type is read as soon as its alternatives are.  The text of a normal type is that of its
    alternatives with bars between them, and a normal type is given by its alternatives. -/
theorem text_append_inj_of_legible {a b : TypeDesc} (ha : a.Normal) (hb : b.Normal)
    (hlegible : ∀ x ∈ a.alternatives, x.Legible) {r r' : List Char} (hr : EndsType r)
    (hr' : EndsType r') (h : a.text.toList ++ r = b.text.toList ++ r') : a = b ∧ r = r' := by
  have hempty : a.alternatives = [] ↔ b.alternatives = [] := by
    rw [← endsType_text_iff ha hr, h, endsType_text_iff hb hr']
  have hsame : a.alternatives = b.alternatives := by
    cases has : a.alternatives with
    | nil => exact (hempty.mp has).symm
    | cons x xs =>
      obtain ⟨y, ys, hbs⟩ : ∃ y ys, b.alternatives = y :: ys :=
        List.exists_cons_of_ne_nil fun hnil => by simp [hempty.mpr hnil] at has
      have hbarred : barred a.alternatives ++ r = barred b.alternatives ++ r' := by
        rw [barred_alternatives has, barred_alternatives hbs, List.append_assoc,
          List.append_assoc, h]
      rw [← has]
      exact (barred_append_inj hlegible hb.alternatives hr hr' hbarred).1
  obtain rfl := ha.eq_of_alternatives hb hsame
  exact ⟨rfl, List.append_cancel_left h⟩

/-- What is no union is legible, provided that the alternatives of its items are.  The word decides;
    only for sequences there is more to read. -/
theorem legible_of_items {a : TypeDesc} (ha : a.isUnion = false) (hnormal : a.Normal)
    (hitems : ∀ item, a = .seq item → ∀ x ∈ item.alternatives, x.Legible) : a.Legible := by
  intro b r r' hb hnormal' hr hr' h
  rw [toList_text_of_not_union ha, toList_text_of_not_union hb, List.append_assoc,
    List.append_assoc] at h
  obtain ⟨hword, hbehind⟩ := Text.append_inj_of_takeWhile a.isWordChar_word b.isWordChar_word
    (takeWhile_behindWord a hr) (takeWhile_behindWord b hr') h
  rcases cases_of_word ha hb (String.toList_inj.mp hword) with rfl | ⟨item, item', rfl, rfl⟩
  · exact ⟨rfl, List.append_cancel_left hbehind⟩
  · have hinside : item.text.toList ++ ']' :: r = item'.text.toList ++ ']' :: r' := by
      simpa [behindWord] using hbehind
    have hitem : item.Normal := hnormal
    have hitem' : item'.Normal := hnormal'
    obtain ⟨rfl, hrest⟩ := text_append_inj_of_legible hitem hitem' (hitems item rfl)
      (endsType_bracket r) (endsType_bracket r') hinside
    exact ⟨rfl, (List.cons.inj hrest).2⟩

/-- All alternatives of a normal type are legible.  By induction on the type; the item of a sequence
    is read before the bracket that closes it. -/
theorem legible_of_mem_alternatives {a : TypeDesc} (ha : a.Normal) :
    ∀ x ∈ a.alternatives, x.Legible := by
  induction a using members_induction with
  | any => exact List.forall_mem_singleton.mpr (legible_of_items rfl trivial nofun)
  | prim n => exact List.forall_mem_singleton.mpr (legible_of_items rfl trivial nofun)
  | seq item ih =>
    refine List.forall_mem_singleton.mpr (legible_of_items rfl ha ?_)
    rintro item ⟨⟩
    exact ih ha
  | union ms ih =>
    intro x hx
    obtain ⟨hunion, hnormal⟩ := ha.alternatives x hx
    exact ih x hx hnormal x (mem_alternatives_self hunion)

/-- Texts of normal types are told apart wherever a type may end. -/
theorem text_append_inj {a b : TypeDesc} (ha : a.Normal) (hb : b.Normal) {r r' : List Char}
    (hr : EndsType r) (hr' : EndsType r') (h : a.text.toList ++ r = b.text.toList ++ r') :
    a = b ∧ r = r' :=
  text_append_inj_of_legible ha hb (legible_of_mem_alternatives ha) hr hr' h

/-- Different normal types have different texts. -/
theorem eq_of_text {a b : TypeDesc} (ha : a.Normal) (hb : b.Normal) (h : a.text = b.text) :
    a = b := by
  have hends : EndsType [] := nofun
  exact (text_append_inj ha hb hends hends (by rw [h])).1

/-- A union of one type is written as that type; it is not normal. -/
example : (union [.prim .int]).text = (prim .int).text := rfl

/-! ## Characters -/

/-- A character of words, of bars or of brackets. -/
def isTextChar (c : Char) : Bool := isWordChar c || c ∈ [' ', '|', '[', ']']

/-- No other characters stand in the text of a type, in particular no colon and no line break, so a
    type can be found in a message that is made from it and other parts. -/
theorem isTextChar_text (a : TypeDesc) : ∀ c ∈ a.text.toList, isTextChar c = true := by
  have hword : ∀ c, isWordChar c = true → isTextChar c = true := by
    intro c hc
    simp [isTextChar, hc]
  -- words, brackets and bars are all that a text is made of
  induction a using members_induction with
  | any => exact fun c hc => hword c (isWordChar_word .any c hc)
  | prim n => exact fun c hc => hword c (n.isWordChar_name c hc)
  | seq item ih =>
    have hopen : "seq[".toList.all isTextChar = true := by decide
    have hclose : "]".toList.all isTextChar = true := by decide
    simp only [text, String.toList_append, List.forall_mem_append]
    exact ⟨⟨List.all_eq_true.mp hopen, ih⟩, List.all_eq_true.mp hclose⟩
  | union ms ih =>
    have hbar : " | ".toList.all isTextChar = true := by decide
    rw [text, texts_eq_map]
    cases ms with
    | nil => exact nofun
    | cons m rest =>
      obtain ⟨hm, hrest⟩ := List.forall_mem_cons.mp ih
      rw [List.map_cons, Text.toList_intercalate_cons, List.forall_mem_append, List.flatMap_map]
      refine ⟨hm, fun c hc => ?_⟩
      obtain ⟨t, ht, hc⟩ := List.mem_flatMap.mp hc
      rcases List.mem_append.mp hc with hc | hc
      · exact List.all_eq_true.mp hbar c hc
      · exact hrest t ht c hc

/-- A character that belongs to no word, bar or bracket is not in the text of a type. -/
theorem not_mem_text {c : Char} (hc : isTextChar c = false) (a : TypeDesc) : c ∉ a.text.toList := by
  intro hmem
  rw [a.isTextChar_text c hmem] at hc
  cases hc

end TypeDesc

end SyntheticTables
