/-
  The sorted view of a document.

  Where no name stands twice in an object, sorting only rearranges its members
  (`perm_sortMembers`): each is found again under its name (`member?_decoded`), and members that stand
  in ascending order already stay where they are (`sortMembers_eq_of_perm`).  A document whose
  numbers are all written as themselves is decoded to its sorted view.
-/
import Mathlib.Data.List.Perm.Basic
import SyntheticTables.Proofs.Json.Member
import SyntheticTables.Proofs.Json.Printer
import SyntheticTables.Table.Row

namespace SyntheticTables

/-- No name stands twice, in whatever order the members are. -/
def DistinctNames {α : Type} (members : List (String × α)) : Prop := (members.map (·.1)).Nodup

/-- Members in ascending order have distinct names. -/
theorem Ascending.distinct {α : Type} {members : List (String × α)} (h : Ascending members) :
    DistinctNames members :=
  (List.pairwise_map.mpr h).imp fun {a b} (hab : a < b) (heq : a = b) =>
    String.lt_irrefl a (heq ▸ hab)

/-- Rearranging members changes none of their names. -/
theorem DistinctNames.perm {α : Type} {xs ys : List (String × α)} (h : DistinctNames xs)
    (hperm : xs.Perm ys) : DistinctNames ys :=
  (hperm.map fun m : String × α => m.1).nodup_iff.mp h

namespace Json

/-! ## Sorting rearranges -/

/-- Putting in a member with a new name adds it at some place. -/
theorem perm_insertMember {α : Type} {name : String} {value : α} :
    ∀ {entries : List (String × α)}, name ∉ entries.map (·.1) →
      (insertMember name value entries).Perm ((name, value) :: entries)
  | [], _ => List.Perm.refl _
  | (n, v) :: rest, h => by
    rw [List.map_cons, List.mem_cons, not_or] at h
    unfold insertMember
    split
    · exact List.Perm.refl _
    · rw [if_neg h.1]
      exact ((perm_insertMember h.2).cons (n, v)).trans (List.Perm.swap _ _ _)

/-- Putting in members one after the other rearranges them, as long as no name comes up twice,
    because then none takes the place of another. -/
theorem perm_foldl_insertMember {α : Type} (members : List (String × α)) :
    ∀ {sorted : List (String × α)}, DistinctNames (members ++ sorted) →
      (members.foldl (fun sorted m => insertMember m.1 m.2 sorted) sorted).Perm
        (members ++ sorted) := by
  induction members with
  | nil => exact fun _ => List.Perm.refl _
  | cons m rest ih =>
    intro sorted h
    have hm : m.1 ∉ (rest ++ sorted).map (·.1) := (List.nodup_cons.mp h).1
    have hnew : m.1 ∉ sorted.map (·.1) := by
      intro hmem
      exact hm (by rw [List.map_append]; exact List.mem_append_right _ hmem)
    have hput : (insertMember m.1 m.2 sorted).Perm (m :: sorted) := perm_insertMember hnew
    have hmove : (rest ++ insertMember m.1 m.2 sorted).Perm (m :: rest ++ sorted) :=
      (hput.append_left rest).trans List.perm_middle
    have hdistinct : DistinctNames (rest ++ insertMember m.1 m.2 sorted) := h.perm hmove.symm
    exact (ih hdistinct).trans hmove

/-- Sorting rearranges members with distinct names. -/
theorem perm_sortMembers {α : Type} {members : List (String × α)} (h : DistinctNames members) :
    (sortMembers members).Perm members := by
  have happend : DistinctNames (members ++ []) := by rwa [List.append_nil]
  have hperm := perm_foldl_insertMember members happend
  rwa [List.append_nil] at hperm

/-- The members in ascending order are determined by which members there are. -/
theorem sortMembers_eq_of_perm {α : Type} {members entries : List (String × α)}
    (hperm : members.Perm entries) (hentries : Ascending entries) :
    sortMembers members = entries := by
  have hdistinct : DistinctNames members := hentries.distinct.perm hperm.symm
  refine List.Perm.eq_of_pairwise ?_ (ascending_sortMembers members) hentries
    ((perm_sortMembers hdistinct).trans hperm)
  intro a b _ _ (hab : a.1 < b.1) (hba : b.1 < a.1)
  exact absurd hab (String.lt_asymm hba)

/-! ## Looking a name up -/

/-- With distinct names, a member is found under its name, and nothing else is.  So the order of the
    members does not matter to what is found. -/
theorem find?_eq_some_iff {α : Type} {members : List (String × α)} (h : DistinctNames members)
    {name : String} {m : String × α} :
    members.find? (·.1 = name) = some m ↔ m ∈ members ∧ m.1 = name := by
  induction members with
  | nil => simp
  | cons a rest ih =>
    obtain ⟨ha, hrest⟩ := List.nodup_cons.mp h
    rw [List.find?_cons]
    by_cases hname : a.1 = name
    · -- no later member has this name
      have hlater : ∀ b ∈ rest, b.1 ≠ name := by
        intro b hb heq
        exact ha (List.mem_map.mpr ⟨b, hb, heq.trans hname.symm⟩)
      simp only [hname, decide_true, Option.some.injEq, List.mem_cons]
      constructor
      · rintro rfl
        exact ⟨.inl rfl, hname⟩
      · rintro ⟨rfl | hm, heq⟩
        · rfl
        · exact absurd heq (hlater m hm)
    · simp only [hname, decide_false, ih hrest, List.mem_cons]
      constructor
      · exact fun hm => ⟨.inr hm.1, hm.2⟩
      · rintro ⟨rfl | hm, heq⟩
        · exact absurd heq hname
        · exact ⟨hm, heq⟩

/-- In which order the members stand does not matter for looking one up. -/
theorem find?_perm {α : Type} {xs ys : List (String × α)} (h : DistinctNames xs)
    (hperm : xs.Perm ys) (name : String) : xs.find? (·.1 = name) = ys.find? (·.1 = name) := by
  refine Option.ext fun m => ?_
  rw [find?_eq_some_iff h, find?_eq_some_iff (h.perm hperm), hperm.mem_iff]

/-! ## The sorted view of what is written -/

/-- The sorted view goes into each value of an object and leaves the order to `sortMembers`. -/
theorem sortedValues_eq_map (members : List (String × Json)) :
    sortedValues members = members.map fun m => (m.1, m.2.sorted) := by
  induction members with
  | nil => rfl
  | cons m rest ih => rw [sortedValues, ih, List.map_cons]

/-- The sorted view goes into each element of a list, whose order stays. -/
theorem sortedItems_eq_map (items : List Json) : sortedItems items = items.map sorted := by
  induction items with
  | nil => rfl
  | cons item rest ih => rw [sortedItems, ih, List.map_cons]

@[simp] theorem sorted_arr (items : List Json) : (Json.arr items).sorted = .arr (items.map sorted) :=
  congrArg Json.arr (sortedItems_eq_map items)

@[simp] theorem sortedValues_append (xs ys : List (String × Json)) :
    sortedValues (xs ++ ys) = sortedValues xs ++ sortedValues ys := by
  simp only [sortedValues_eq_map, List.map_append]

/-- The view of a member that was left out is left out. -/
@[simp] theorem sortedValues_optional {α : Type} (name : String) (encode : α → Json)
    (o : Option α) :
    sortedValues (optional name encode o) = optional name (fun a => (encode a).sorted) o := by
  cases o <;> rfl

/-! ## The names in an object -/

/-- The members have some of these names, in this order; the others were left out. -/
def Named (names : List String) (members : List (String × Json)) : Prop :=
  (members.map (·.1)).Sublist names

theorem named_nil (names : List String) : Named names [] := List.nil_sublist names

/-- A single member has its name. -/
theorem named_one (name : String) (value : Json) : Named [name] [(name, value)] :=
  List.Sublist.refl [name]

/-- A member that may be left out has its name if it is there. -/
theorem named_optional {α : Type} (name : String) (encode : α → Json) (o : Option α) :
    Named [name] (optional name encode o) := by
  cases o with
  | none => exact named_nil [name]
  | some a => exact named_one name (encode a)

namespace Named

variable {names names' : List String} {members members' : List (String × Json)}

/-- Parts that have names in order have them in order together. -/
theorem append (h : Named names members) (h' : Named names' members') :
    Named (names ++ names') (members ++ members') := by
  rw [Named, List.map_append]
  exact List.Sublist.append h h'

/-- If no name stands twice among those that members may have, none does among those they have. -/
theorem distinct (h : Named names members) (hnames : names.Nodup) : DistinctNames members :=
  List.Sublist.nodup h hnames

/-- Under any other name nothing is found. -/
theorem member?_eq_none (h : Named names members) {name : String} (hname : name ∉ names) :
    (obj members).member? name = none := by
  have hall : ∀ m ∈ members, m.1 ≠ name := by
    rintro m hm rfl
    exact hname (h.subset (List.mem_map_of_mem hm))
  simpa [member?] using hall

end Named

/-! ## Decoded documents -/

/-- Decoding goes into each value of an object and leaves the order to `sortMembers`. -/
theorem decodedValues_eq_map (members : List (String × Json)) :
    decodedValues members = members.map fun m => (m.1, m.2.decoded) := by
  induction members with
  | nil => rfl
  | cons m rest ih => rw [decodedValues, ih, List.map_cons]

/-- Decoding goes into each element of a list, whose order stays. -/
theorem decodedItems_eq_map (items : List Json) : decodedItems items = items.map decoded := by
  induction items with
  | nil => rfl
  | cons item rest ih => rw [decodedItems, ih, List.map_cons]

/-- A member of a decoded document is the decoded member, if the names are distinct: decoding sorts
    the members, and of two with one name it would keep the later one. -/
theorem member?_decoded {members : List (String × Json)} (h : DistinctNames members)
    (name : String) :
    (Json.obj members).decoded.member? name = ((Json.obj members).member? name).map decoded := by
  have hvalues : DistinctNames (members.map fun m => (m.1, m.2.decoded)) := by
    rwa [DistinctNames, List.map_map]
  have hsorted := perm_sortMembers hvalues
  rw [decoded, decodedValues_eq_map]
  show ((sortMembers (members.map fun m => (m.1, m.2.decoded))).find? (·.1 = name)).map (·.2)
    = ((members.find? (·.1 = name)).map (·.2)).map decoded
  rw [find?_perm (hvalues.perm hsorted.symm) hsorted, List.find?_map, Option.map_map,
    Option.map_map]
  rfl

@[simp] theorem decoded_arr (items : List Json) :
    (Json.arr items).decoded = .arr (items.map decoded) :=
  congrArg Json.arr (decodedItems_eq_map items)

/-- A number that is written as itself is decoded to itself. -/
theorem Number.decoded_eq {n : Number} (h : n.Proper) : n.decoded = .num n := by
  cases n with
  | float x =>
    have hx : x.isFinite = true := h
    simp [Number.decoded, hx]
  | unsigned n => rfl
  | negative i => rfl

/-- An integer is decoded to itself, in either of its forms. -/
@[simp] theorem decoded_ofInt64 (i : Int64) : (ofInt64 i).decoded = ofInt64 i := by
  unfold ofInt64 Number.ofInt64
  split <;> rfl

/-- So is a finite float; one that is not finite would be written as `null`. -/
theorem decoded_ofFloat {x : Float} (hx : x.isFinite = true) :
    (ofFloat x).decoded = ofFloat x := by
  have hproper : (Number.float x).Proper := hx
  exact Number.decoded_eq hproper

mutual

/-- A document whose numbers are written as themselves loses none of them. -/
theorem decoded_eq_sorted : ∀ j : Json, j.Proper → j.decoded = j.sorted
  | .null, _ => rfl
  | .bool _, _ => rfl
  | .num _, h => Number.decoded_eq h
  | .str _, _ => rfl
  | .arr items, h => congrArg Json.arr (decodedItems_eq_sortedItems items h)
  | .obj members, h => by
    rw [decoded, sorted, decodedValues_eq_sortedValues members h]

/-- The elements of a list, by induction. -/
theorem decodedItems_eq_sortedItems : ∀ js : List Json, AllProper js →
    decodedItems js = sortedItems js
  | [], _ => rfl
  | j :: rest, h => by
    rw [decodedItems, sortedItems, decoded_eq_sorted j h.1, decodedItems_eq_sortedItems rest h.2]

/-- The values in an object, by induction. -/
theorem decodedValues_eq_sortedValues : ∀ ms : List (String × Json), MembersProper ms →
    decodedValues ms = sortedValues ms
  | [], _ => rfl
  | (name, value) :: rest, h => by
    rw [decodedValues, sortedValues, decoded_eq_sorted value h.1,
      decodedValues_eq_sortedValues rest h.2]

end

end Json

end SyntheticTables
