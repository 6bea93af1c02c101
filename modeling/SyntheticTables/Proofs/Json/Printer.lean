/-
  A document is determined by its text.

  The text of a document shows where it ends, so it is told apart from the text of any other
  document whatever follows (`text_append_inj`): the first character gives the kind, a text ends at
  its closing quote, a container at its bracket, and a number where a character follows that no
  number contains.  Numbers need care: the text of a float that is not finite is that of `null`, and
  a number with a minus has to be one below zero (`Proper`).
-/
import SyntheticTables.Proofs.Decimal.Layout
import SyntheticTables.Proofs.Json.Quoted
import SyntheticTables.Proofs.Text.Joined

namespace SyntheticTables.Json

/-! ## Numbers -/

namespace Number

/-- Numbers that are written as themselves. -/
def Proper : Number → Prop
  | .unsigned _ => True
  | .negative i => i < 0
  | .float x => x.isFinite = true

/-- The characters that numbers are written in. -/
def isChar (c : Char) : Bool := c.isDigit || c ∈ ['.', 'e', '-', '+']

/-- The integer a number is, if it is no float. -/
def int? : Number → Option Int
  | .unsigned n => some n.toNat
  | .negative i => some i.toInt
  | .float _ => none

/-- An integer is written in decimals, whichever of its forms it has. -/
theorem text_of_int? {n : Number} {i : Int} (h : n.int? = some i) : n.text = toString i := by
  cases n <;> cases h <;> rfl

/-- A sign shows on which side of zero an integer is, so it has one form: the negative form is for
    negative integers only, and no unsigned number is one. -/
theorem eq_of_int? {m n : Number} (hm : m.Proper) (hn : n.Proper) {i : Int}
    (hmi : m.int? = some i) (hni : n.int? = some i) : m = n := by
  -- a negative number is below zero and an unsigned one is not, so both are of one form
  cases m with
  | float x => cases hmi
  | unsigned a =>
    obtain rfl : (a.toNat : Int) = i := Option.some.inj hmi
    cases n with
    | float x => cases hni
    | unsigned b =>
      have hab : (b.toNat : Int) = a.toNat := Option.some.inj hni
      rw [UInt64.toNat_inj.mp (Int.ofNat.inj hab)]
    | negative j =>
      have hja : j.toInt = a.toNat := Option.some.inj hni
      have hj : j.toInt < 0 := Int64.lt_iff_toInt_lt.mp hn
      omega
  | negative j =>
    obtain rfl : j.toInt = i := Option.some.inj hmi
    have hj : j.toInt < 0 := Int64.lt_iff_toInt_lt.mp hm
    cases n with
    | float x => cases hni
    | unsigned b =>
      have hbj : (b.toNat : Int) = j.toInt := Option.some.inj hni
      omega
    | negative k =>
      have hkj : k.toInt = j.toInt := Option.some.inj hni
      rw [Int64.toInt_inj.mp hkj]

/-- A number is an integer or a finite float. -/
theorem Proper.form {n : Number} (hn : n.Proper) :
    (∃ i, n.int? = some i) ∨ ∃ x, n = .float x ∧ x.isFinite = true := by
  cases n with
  | float x => exact .inr ⟨x, rfl, hn⟩
  | _ => exact .inl ⟨_, rfl⟩

/-- No number is written as nothing. -/
theorem text_ne_nil {n : Number} (hn : n.Proper) : n.text.toList ≠ [] := by
  intro hnil
  rcases hn.form with ⟨i, hi⟩ | ⟨x, rfl, hx⟩
  · have hread := Text.int?_toString i
    rw [← text_of_int? hi, hnil] at hread
    cases hread
  · have hempty : (Decimal.json.text x).toList = [] := hnil
    have hmark := Decimal.mark_mem_text (l := Decimal.json) rfl hx
    simp [hempty] at hmark

/-- A number is written in digits, a point, an exponent sign and signs, and in nothing else.  None
    of these follows a number in a document, so its text ends where they do. -/
theorem isChar_text {n : Number} (hn : n.Proper) {c : Char} (hc : c ∈ n.text.toList) :
    isChar c = true := by
  have hform : c.isDigit = true ∨ c ∈ ['.', 'e', '-', '+'] := by
    rcases hn.form with ⟨i, hi⟩ | ⟨x, rfl, hx⟩
    · rw [text_of_int? hi] at hc
      rcases Text.mem_toString hc with rfl | hc
      · exact .inr (by decide)
      · exact .inl hc
    · obtain ⟨body, r, htext, hspells, -⟩ := Decimal.spells_text Decimal.json hx
      rw [text, htext, List.mem_append] at hc
      rcases hc with hc | hc
      · split at hc
        · rw [List.mem_singleton.mp hc]
          exact .inr (by decide)
        · cases hc
      · exact hspells.mem hc
  simpa [isChar] using hform

/-- An integer has neither a point nor an exponent. -/
theorem text_int_ne_float {i : Int} {x : Float} (hx : x.isFinite = true) :
    toString i ≠ (float x).text := by
  intro h
  have hnone : ∀ c ∈ (float x).text.toList, c = '-' ∨ c.isDigit = true := by
    intro c hc
    exact Text.mem_toString (h ▸ hc)
  rcases Decimal.mark_mem_text (l := Decimal.json) rfl hx with hmark | hmark
  · exact absurd (hnone _ hmark) (by decide)
  · exact absurd (hnone _ hmark) (by decide)

/-- Different numbers have different texts.  Of two integers the texts are read back; of two floats
    they determine the shortest decimals; and an integer is never written like a float. -/
theorem eq_of_text {m n : Number} (hm : m.Proper) (hn : n.Proper) (h : m.text = n.text) :
    m = n := by
  rcases hm.form with ⟨i, hi⟩ | ⟨x, rfl, hx⟩
  · rcases hn.form with ⟨j, hj⟩ | ⟨y, rfl, hy⟩
    · have hij : some i = some j := by
        rw [← Text.int?_toString i, ← Text.int?_toString j, ← text_of_int? hi, ← text_of_int? hj, h]
      exact eq_of_int? hm hn hi (hij ▸ hj)
    · exact absurd ((text_of_int? hi).symm.trans h) (text_int_ne_float hy)
  · rcases hn.form with ⟨j, hj⟩ | ⟨y, rfl, hy⟩
    · exact absurd ((text_of_int? hj).symm.trans h.symm) (text_int_ne_float hx)
    · rw [Decimal.eq_of_text Decimal.json hx hy h]

end Number

/-- What follows a number does not go on with it: it is nothing, or begins with a character that no
    number contains. -/
def Stops (r : List Char) : Prop := r.takeWhile Number.isChar = []

/-- Numbers are told apart wherever they stand. -/
theorem number_append_inj {m n : Number} {r r' : List Char} (hm : m.Proper) (hn : n.Proper)
    (hr : Stops r) (hr' : Stops r') (h : m.text.toList ++ r = n.text.toList ++ r') :
    m = n ∧ r = r' := by
  obtain ⟨htext, hrest⟩ := Text.append_inj_of_takeWhile (fun c hc => Number.isChar_text hm hc)
    (fun c hc => Number.isChar_text hn hc) hr hr' h
  exact ⟨Number.eq_of_text hm hn (String.toList_inj.mp htext), hrest⟩

/-! ## Containers -/

/-- The elements of a list are written one by one. -/
theorem itemTexts_eq (items : List Json) : itemTexts items = items.map text := by
  induction items with
  | nil => rfl
  | cons item rest ih => rw [itemTexts, ih, List.map_cons]

/-- A member as it stands in its object. -/
def memberText (m : String × Json) : String := stringText m.1 ++ ":" ++ text m.2

/-- The members of an object are written one by one, each value behind its name. -/
theorem memberTexts_eq (members : List (String × Json)) :
    memberTexts members = members.map memberText := by
  induction members with
  | nil => rfl
  | cons m rest ih => rw [memberTexts, ih, List.map_cons, memberText]

/-- The entries of a container, each with a comma in front. -/
def entries (texts : List String) : List Char := texts.flatMap fun t => ',' :: t.toList

/-- Behind one more comma, joined texts are entries that all begin with a comma, which is easier to
    go along. -/
theorem toList_intercalate (t : String) (rest : List String) :
    ',' :: (",".intercalate (t :: rest)).toList = entries (t :: rest) :=
  congrArg (',' :: ·) (Text.toList_intercalate_cons "," t rest)

/-- An entry that does not begin with the closing bracket. -/
def Enters (close : Char) (t : String) : Prop := ∃ c rest, t.toList = c :: rest ∧ c ≠ close

/-- Only a container without entries closes at once.  So two containers with the same text both have
    entries or both have none, and the comma may be put in front of either. -/
theorem entries_of_intercalate {close : Char} {ts ts' : List String} {r r' : List Char}
    (hts : ∀ t ∈ ts, Enters close t) (hts' : ∀ t ∈ ts', Enters close t)
    (h : (",".intercalate ts).toList ++ close :: r = (",".intercalate ts').toList ++ close :: r') :
    entries ts ++ close :: r = entries ts' ++ close :: r' := by
  -- an entry does not begin with the closing bracket, so both lists are empty or neither is
  have hclose : ∀ {t : String} {rest : List String} {r r' : List Char}, Enters close t →
      close :: r ≠ (",".intercalate (t :: rest)).toList ++ close :: r' := by
    rintro t rest r r' ⟨c, cs, hc, hne⟩ h
    have hcons : ',' :: close :: r = entries (t :: rest) ++ close :: r' := by
      rw [← toList_intercalate, List.cons_append, h]
    simp only [entries, List.flatMap_cons, hc, List.cons_append, List.cons.injEq] at hcons
    exact hne hcons.2.1.symm
  cases ts with
  | nil =>
    cases ts' with
    | nil => exact h
    | cons t' rest' => exact absurd h (hclose (hts' t' List.mem_cons_self))
  | cons t rest =>
    cases ts' with
    | nil => exact absurd h.symm (hclose (hts t List.mem_cons_self))
    | cons t' rest' =>
      rw [← toList_intercalate, ← toList_intercalate, List.cons_append, List.cons_append, h]

/-- No entry is taken for part of a number before it. -/
theorem stops_entries {close : Char} (hclose : Number.isChar close = false) (ts : List String)
    (r : List Char) : Stops (entries ts ++ close :: r) := by
  cases ts with
  | nil => simp [Stops, entries, hclose]
  | cons t rest =>
    have hcomma : Number.isChar ',' = false := by decide
    simp [Stops, entries, hcomma]

/-- A list stands in brackets, its elements with commas between them. -/
theorem toList_text_arr (items : List Json) :
    (text (.arr items)).toList = '[' :: (",".intercalate (items.map text)).toList ++ [']'] := by
  simp [text, itemTexts_eq]

/-- An object stands in braces, its members with commas between them. -/
theorem toList_text_obj (members : List (String × Json)) :
    (text (.obj members)).toList
      = '\x7b' :: (",".intercalate (members.map memberText)).toList ++ ['\x7d'] := by
  simp [text, memberTexts_eq]

/-- An object with a single member begins with its name. -/
theorem toList_text_member (name : String) (value : Json) :
    (text (.obj [(name, value)])).toList
      = '\x7b' :: ((stringText name).toList ++ (":" ++ text value ++ "\x7d").toList) := by
  rw [toList_text_obj]
  simp [memberText]

/-! ## Documents -/

mutual

/-- Documents in which all numbers are written as themselves. -/
def Proper : Json → Prop
  | .num n => n.Proper
  | .arr items => AllProper items
  | .obj members => MembersProper members
  | .null => True
  | .bool _ => True
  | .str _ => True
  termination_by structural j => j

/-- Lists in which all numbers are written as themselves. -/
def AllProper : List Json → Prop
  | [] => True
  | item :: rest => Proper item ∧ AllProper rest
  termination_by structural items => items

/-- Members in which all numbers are written as themselves. -/
def MembersProper : List (String × Json) → Prop
  | [] => True
  | (_, value) :: rest => Proper value ∧ MembersProper rest
  termination_by structural members => members

end

/-- The kinds of documents, which the first character of a text tells apart. -/
inductive Kind where
  | null
  | bool
  | number
  | text
  | list
  | object

def kind : Json → Kind
  | .null => .null
  | .bool _ => .bool
  | .num _ => .number
  | .str _ => .text
  | .arr _ => .list
  | .obj _ => .object

/-- The kind of the documents that begin with a character. -/
def kindFrom? (c : Char) : Option Kind :=
  if c = 'n' then some .null
  else if c = 't' || c = 'f' then some .bool
  else if c = '"' then some .text
  else if c = '[' then some .list
  else if c = '\x7b' then some .object
  else if Number.isChar c then some .number
  else none

/-- A character of a number begins a number and no other kind of document. -/
theorem kindFrom?_isChar {c : Char} (hc : Number.isChar c = true) : kindFrom? c = some .number := by
  have hne : ∀ d, Number.isChar d = false → c ≠ d := by
    rintro d hd rfl
    rw [hd] at hc
    cases hc
  simp [kindFrom?, hc, hne 'n' (by decide), hne 't' (by decide), hne 'f' (by decide),
    hne '"' (by decide), hne '[' (by decide), hne '\x7b' (by decide)]

/-- The text of a document begins with a character of its kind: a letter, a quote, a bracket or a
    brace, and for numbers a digit or a sign.  So two texts of different kinds differ at once. -/
theorem kindFrom?_head {j : Json} (hj : j.Proper) :
    ∃ c rest, j.text.toList = c :: rest ∧ kindFrom? c = some j.kind := by
  cases j with
  | null => exact ⟨'n', _, rfl, rfl⟩
  | bool b => cases b <;> exact ⟨_, _, rfl, rfl⟩
  | num n =>
    cases htext : n.text.toList with
    | nil => exact absurd htext (Number.text_ne_nil hj)
    | cons c rest =>
      exact ⟨c, rest, htext, kindFrom?_isChar (Number.isChar_text hj (htext ▸ List.mem_cons_self))⟩
  | str s => exact ⟨'"', _, toList_stringText s, rfl⟩
  | arr items => exact ⟨'[', _, toList_text_arr items, rfl⟩
  | obj members => exact ⟨'\x7b', _, toList_text_obj members, rfl⟩

/-- Texts that begin alike are of documents of one kind. -/
theorem kind_eq {j k : Json} {r r' : List Char} (hj : j.Proper) (hk : k.Proper)
    (h : j.text.toList ++ r = k.text.toList ++ r') : j.kind = k.kind := by
  obtain ⟨c, rest, hc, hkind⟩ := kindFrom?_head hj
  obtain ⟨d, rest', hd, hkind'⟩ := kindFrom?_head hk
  rw [hc, hd, List.cons_append, List.cons_append] at h
  obtain ⟨rfl, -⟩ := List.cons.inj h
  exact Option.some.inj (hkind.symm.trans hkind')

/-- No element of a list begins with the bracket that closes the list, so an empty list is told from
    others by its second character. -/
theorem AllProper.enters {items : List Json} (h : AllProper items) :
    ∀ t ∈ items.map text, Enters ']' t := by
  induction items with
  | nil => simp
  | cons j rest ih =>
    intro t ht
    rcases List.mem_cons.mp ht with rfl | ht
    · obtain ⟨c, cs, hc, hkind⟩ := kindFrom?_head h.1
      refine ⟨c, cs, hc, ?_⟩
      rintro rfl
      cases hkind
    · exact ih h.2 t ht

/-- No member of an object begins with the brace that closes the object; each begins with a
    quote. -/
theorem enters_memberText (members : List (String × Json)) :
    ∀ t ∈ members.map memberText, Enters '\x7d' t := by
  intro t ht
  obtain ⟨m, -, rfl⟩ := List.mem_map.mp ht
  have hhead : ∃ rest, (memberText m).toList = '"' :: rest := by
    simp [memberText, toList_stringText]
  obtain ⟨rest, hrest⟩ := hhead
  exact ⟨'"', rest, hrest, by decide⟩

mutual

/-- Texts with something behind them that continues no number are the same only if the documents
    are, and what stands behind them.  By mutual induction on the first document; the first
    character tells its kind, and with it that of the other one. -/
theorem text_append_inj : ∀ (j k : Json) (r r' : List Char), j.Proper → k.Proper → Stops r →
    Stops r' → j.text.toList ++ r = k.text.toList ++ r' → j = k ∧ r = r'
  | .null, k, r, r', hj, hk, _, _, h => by
    -- the first character tells the kind, here and in every case below
    have hkind := kind_eq hj hk h
    cases k with
    | null => exact ⟨rfl, List.append_cancel_left h⟩
    | _ => cases hkind
  | .bool b, k, r, r', hj, hk, _, _, h => by
    have hkind := kind_eq hj hk h
    cases k with
    | bool b' =>
      cases b <;> cases b'
      · exact ⟨rfl, List.append_cancel_left h⟩
      · cases (List.cons.inj h).1
      · cases (List.cons.inj h).1
      · exact ⟨rfl, List.append_cancel_left h⟩
    | _ => cases hkind
  | .num n, k, r, r', hj, hk, hr, hr', h => by
    have hkind := kind_eq hj hk h
    cases k with
    | num n' =>
      obtain ⟨rfl, hrest⟩ := number_append_inj hj hk hr hr' h
      exact ⟨rfl, hrest⟩
    | _ => cases hkind
  | .str s, k, r, r', hj, hk, _, _, h => by
    have hkind := kind_eq hj hk h
    cases k with
    | str s' =>
      obtain ⟨rfl, hrest⟩ := stringText_append_inj h
      exact ⟨rfl, hrest⟩
    | _ => cases hkind
  | .arr items, k, r, r', hj, hk, _, _, h => by
    have hkind := kind_eq hj hk h
    cases k with
    | arr items' =>
      rw [toList_text_arr, toList_text_arr] at h
      simp only [List.cons_append, List.cons.injEq, true_and, List.append_assoc] at h
      have hitems := entries_of_intercalate (AllProper.enters hj) (AllProper.enters hk) h
      obtain ⟨rfl, hrest⟩ := items_append_inj items items' r r' hj hk hitems
      exact ⟨rfl, hrest⟩
    | _ => cases hkind
  | .obj members, k, r, r', hj, hk, _, _, h => by
    have hkind := kind_eq hj hk h
    cases k with
    | obj members' =>
      rw [toList_text_obj, toList_text_obj] at h
      simp only [List.cons_append, List.cons.injEq, true_and, List.append_assoc] at h
      have hmembers :=
        entries_of_intercalate (enters_memberText members) (enters_memberText members') h
      obtain ⟨rfl, hrest⟩ := members_append_inj members members' r r' hj hk hmembers
      exact ⟨rfl, hrest⟩
    | _ => cases hkind

/-- Entries of lists are told apart: each ends where a comma or the bracket follows.  Mutual
    induction with the texts of documents; what comes behind the list is kept in the statement for
    its sake. -/
theorem items_append_inj : ∀ (js ks : List Json) (r r' : List Char), AllProper js → AllProper ks →
    entries (js.map text) ++ ']' :: r = entries (ks.map text) ++ ']' :: r' → js = ks ∧ r = r'
  | [], [], _, _, _, _, h => ⟨rfl, (List.cons.inj h).2⟩
  | [], _ :: _, _, _, _, _, h => by simp [entries] at h
  | _ :: _, [], _, _, _, _, h => by simp [entries] at h
  | j :: js, k :: ks, r, r', hj, hk, h => by
    simp only [entries, List.map_cons, List.flatMap_cons, List.cons_append, List.append_assoc,
      List.cons.injEq, true_and] at h
    obtain ⟨rfl, hrest⟩ := text_append_inj j k _ _ hj.1 hk.1
      (stops_entries (by decide) (js.map text) r) (stops_entries (by decide) (ks.map text) r') h
    obtain ⟨rfl, hr⟩ := items_append_inj js ks r r' hj.2 hk.2 hrest
    exact ⟨rfl, hr⟩

/-- So are members, whose names end at their closing quotes.  Behind a name the colon is the same on
    both sides, and the value is a document again. -/
theorem members_append_inj : ∀ (ms ns : List (String × Json)) (r r' : List Char),
    MembersProper ms → MembersProper ns →
    entries (ms.map memberText) ++ '\x7d' :: r = entries (ns.map memberText) ++ '\x7d' :: r' →
    ms = ns ∧ r = r'
  | [], [], _, _, _, _, h => ⟨rfl, (List.cons.inj h).2⟩
  | [], _ :: _, _, _, _, _, h => by simp [entries] at h
  | _ :: _, [], _, _, _, _, h => by simp [entries] at h
  | (name, j) :: ms, (name', k) :: ns, r, r', hj, hk, h => by
    simp only [entries, List.map_cons, List.flatMap_cons, memberText, String.toList_append,
      List.cons_append, List.append_assoc, List.cons.injEq, true_and] at h
    obtain ⟨rfl, hvalue⟩ := stringText_append_inj h
    simp only [List.append_cancel_left_eq] at hvalue
    obtain ⟨rfl, hrest⟩ := text_append_inj j k _ _ hj.1 hk.1
      (stops_entries (by decide) (ms.map memberText) r)
      (stops_entries (by decide) (ns.map memberText) r') hvalue
    obtain ⟨rfl, hr⟩ := members_append_inj ms ns r r' hj.2 hk.2 hrest
    exact ⟨rfl, hr⟩

end

/-- Different documents have different texts. -/
theorem eq_of_text {j k : Json} (hj : j.Proper) (hk : k.Proper) (h : j.text = k.text) : j = k :=
  (text_append_inj j k [] [] hj hk rfl rfl (by rw [h])).1

end SyntheticTables.Json
