/-
  Unions are a canonical form.

  The order of types is total (`compare_swap`, `compare_trans`), so a strictly ascending list is
  determined by its members.  What `unionOf` makes depends on the alternatives of its parts alone and
  not on the order in which they come or how often (`unionOf_congr`).  Of normal types it makes a
  normal type, whose alternatives are those of the parts; so unions may be formed in any grouping.
-/
import Mathlib.Data.List.Perm.Basic
import SyntheticTables.Proofs.TypeDesc.Preorder

namespace SyntheticTables.TypeDesc

/-! ## The order of types -/

/-- Lists of types are compared the other way round with the mirrored result, if their members
    are. -/
theorem compareLists_swap {as : List TypeDesc}
    (h : ∀ a ∈ as, ∀ b, (compare a b).swap = compare b a) (bs : List TypeDesc) :
    (compareLists as bs).swap = compareLists bs as := by
  induction as generalizing bs with
  | nil => cases bs <;> rfl
  | cons a as ih =>
    obtain ⟨ha, has⟩ := List.forall_mem_cons.mp h
    cases bs with
    | nil => rfl
    | cons b bs => simp only [compareLists, Ordering.swap_then, ha b, ih has bs]

/-- Comparing two types the other way round mirrors the result.  By induction on the first type;
    types of different forms are compared by their forms alone. -/
theorem compare_swap (a b : TypeDesc) : (compare a b).swap = compare b a := by
  induction a using members_induction generalizing b with
  | any => cases b <;> rfl
  | prim n =>
    cases b with
    | prim m => exact Nat.compare_swap n.rank m.rank
    | _ => rfl
  | seq item ih =>
    cases b with
    | seq other => exact ih other
    | _ => rfl
  | union ms ih =>
    cases b with
    | union ts => exact compareLists_swap ih ts
    | _ => rfl

/-- Lists of types are compared in a transitive way, if their members are.  The first place where
    two neighbouring lists differ decides, and the earlier one of two such places decides for the
    outer lists. -/
theorem compareLists_trans {as bs cs : List TypeDesc}
    (h : ∀ a ∈ as, ∀ b c, compare a b = .lt → compare b c = .lt → compare a c = .lt)
    (hab : compareLists as bs = .lt) (hbc : compareLists bs cs = .lt) :
    compareLists as cs = .lt := by
  induction as generalizing bs cs with
  | nil =>
    cases bs with
    | nil => exact hbc
    | cons b bs =>
      cases cs with
      | nil => cases hbc
      | cons c cs => rfl
  | cons a as ih =>
    obtain ⟨ha, has⟩ := List.forall_mem_cons.mp h
    cases bs with
    | nil => cases hab
    | cons b bs =>
      cases cs with
      | nil => cases hbc
      | cons c cs =>
        simp only [compareLists, Ordering.then_eq_lt, compare_eq_iff] at hab hbc ⊢
        -- the first place where neighbours differ decides
        rcases hab with hab | ⟨rfl, hab⟩
        · rcases hbc with hbc | ⟨rfl, -⟩
          · exact .inl (ha b c hab hbc)
          · exact .inl hab
        · rcases hbc with hbc | ⟨rfl, hbc⟩
          · exact .inl hbc
          · exact .inr ⟨rfl, ih has hab hbc⟩

/-- The order of types is transitive.  By induction on the first type; types of different forms are
    ordered by their forms. -/
theorem compare_trans {a b c : TypeDesc} (hab : compare a b = .lt) (hbc : compare b c = .lt) :
    compare a c = .lt := by
  induction a using members_induction generalizing b c with
  | any => cases b <;> cases c <;> simp [compare] at hab hbc ⊢
  | prim n =>
    cases b <;> cases c <;> simp [compare, Nat.compare_eq_lt] at hab hbc ⊢
    exact Nat.lt_trans hab hbc
  | union ms ih =>
    cases b <;> cases c <;> simp [compare] at hab hbc ⊢
    exact compareLists_trans ih hab hbc
  | seq item ih =>
    cases b <;> cases c <;> simp [compare] at hab hbc ⊢
    exact ih hab hbc

/-! ## Ascending lists -/

/-- Strictly ascending, so without repetition. -/
def Ascends (ts : List TypeDesc) : Prop := ts.Pairwise fun a b => compare a b = .lt

/-- An ascending list has no type twice. -/
theorem Ascends.nodup {ts : List TypeDesc} (h : Ascends ts) : ts.Nodup := by
  refine h.imp fun {a b} hab heq => ?_
  rw [heq, compare_self] at hab
  cases hab

/-- An ascending list is determined by its members. -/
theorem Ascends.eq_of_mem_iff {ts us : List TypeDesc} (hts : Ascends ts) (hus : Ascends us)
    (h : ∀ a, a ∈ ts ↔ a ∈ us) : ts = us := by
  have hperm : ts.Perm us := (List.perm_ext_iff_of_nodup hts.nodup hus.nodup).mpr h
  refine hperm.eq_of_pairwise ?_ hts hus
  intro a b _ _ hab hba
  rw [← compare_swap, hab] at hba
  cases hba

/-- Putting a type in at its place keeps a list ascending; a type that is there already is not put
    in again.  What comes behind its place is above it because comparing is transitive. -/
theorem Ascends.insert {a : TypeDesc} {ts : List TypeDesc} (h : Ascends ts) :
    Ascends (TypeDesc.insert a ts) := by
  induction ts with
  | nil => exact List.pairwise_singleton _ a
  | cons b rest ih =>
    obtain ⟨hb, hrest⟩ := List.pairwise_cons.mp h
    unfold TypeDesc.insert
    split
    · rename_i hlt
      exact List.pairwise_cons.mpr
        ⟨List.forall_mem_cons.mpr ⟨hlt, fun c hc => compare_trans hlt (hb c hc)⟩, h⟩
    · exact h
    · rename_i hgt
      have hba : compare b a = .lt := by rw [← compare_swap, hgt]; rfl
      refine List.pairwise_cons.mpr ⟨fun c hc => ?_, ih hrest⟩
      -- behind `b` there are the new type and what was there before, all above `b`
      rcases mem_insert.mp hc with rfl | hc
      · exact hba
      · exact hb c hc

/-- Sorting by insertion gives an ascending list. -/
theorem ascends_foldr_insert (ts : List TypeDesc) : Ascends (ts.foldr insert []) := by
  induction ts with
  | nil => exact List.Pairwise.nil
  | cons a rest ih => exact ih.insert

/-! ## Unions -/

/-- The alternatives of the union of some types: flat, in ascending order, each once. -/
def unionMembers (ts : List TypeDesc) : List TypeDesc := (ts.flatMap alternatives).foldr insert []

/-- The members of a union ascend. -/
theorem ascends_unionMembers (ts : List TypeDesc) : Ascends (unionMembers ts) :=
  ascends_foldr_insert _

/-- The members of a union are the alternatives of its parts. -/
theorem mem_unionMembers {a : TypeDesc} {ts : List TypeDesc} :
    a ∈ unionMembers ts ↔ ∃ t ∈ ts, a ∈ t.alternatives := by
  rw [unionMembers, mem_foldr_insert, List.mem_flatMap]

/-- A single alternative is the union itself. -/
theorem unionOf_cases (ts : List TypeDesc) :
    (∃ a, unionMembers ts = [a] ∧ unionOf ts = a) ∨
      ((unionMembers ts).length ≠ 1 ∧ unionOf ts = .union (unionMembers ts)) := by
  unfold unionOf
  split
  · rename_i a h
    exact .inl ⟨a, h, rfl⟩
  · rename_i h
    refine .inr ⟨fun hlength => ?_, rfl⟩
    obtain ⟨a, ha⟩ := List.length_eq_one_iff.mp hlength
    exact h a ha

/-- Only the alternatives matter, neither their order nor their number: an ascending list is
    determined by its members. -/
theorem unionOf_congr {ts us : List TypeDesc}
    (h : ∀ a, (∃ t ∈ ts, a ∈ t.alternatives) ↔ ∃ u ∈ us, a ∈ u.alternatives) :
    unionOf ts = unionOf us := by
  have hmembers : unionMembers ts = unionMembers us :=
    (ascends_unionMembers ts).eq_of_mem_iff (ascends_unionMembers us) fun a => by
      rw [mem_unionMembers, mem_unionMembers, h]
  simp only [unionOf, ← unionMembers.eq_def, hmembers]

/-! ## Unions and the slot check -/

/-- A type stands in for another when each of its alternatives does. -/
theorem satisfies_iff_alternatives {t b : TypeDesc} :
    t.satisfies b = true ↔ ∀ a ∈ t.alternatives, a.satisfies b = true := by
  cases t <;> simp [alternatives, satisfies_union_iff]

/-- The union of some types may stand where each of them may.  It is made of their alternatives, and
    a type may stand somewhere exactly when all its alternatives may. -/
theorem satisfies_unionOf_iff {ts : List TypeDesc} {b : TypeDesc} :
    (unionOf ts).satisfies b = true ↔ ∀ t ∈ ts, t.satisfies b = true := by
  have hmembers : (unionOf ts).satisfies b = true ↔
      ∀ a ∈ unionMembers ts, a.satisfies b = true := by
    rcases unionOf_cases ts with ⟨a, hms, hunion⟩ | ⟨-, hunion⟩
    · simp [hms, hunion]
    · rw [hunion, satisfies_union_iff]
  rw [hmembers]
  constructor
  · intro h t ht
    exact satisfies_iff_alternatives.mpr fun a ha => h a (mem_unionMembers.mpr ⟨t, ht, ha⟩)
  · intro h a ha
    obtain ⟨t, ht, hat⟩ := mem_unionMembers.mp ha
    exact satisfies_iff_alternatives.mp (h t ht) a hat

/-- What is no union stands in for a type when it does for one of its alternatives. -/
theorem satisfies_of_iff_alternatives {a : TypeDesc} (ha : a.isUnion = false) {t : TypeDesc} :
    a.satisfies t = true ↔ ∃ b ∈ t.alternatives, a.satisfies b = true := by
  cases t <;> simp [alternatives, satisfies_of_union_iff ha]

/-- What is no union may stand for a union of types where it may for one of them.  For a union this
    fails, as its alternatives may stand for different ones. -/
theorem satisfies_of_unionOf_iff {a : TypeDesc} (ha : a.isUnion = false) {ts : List TypeDesc} :
    a.satisfies (unionOf ts) = true ↔ ∃ t ∈ ts, a.satisfies t = true := by
  have hmembers : a.satisfies (unionOf ts) = true ↔
      ∃ b ∈ unionMembers ts, a.satisfies b = true := by
    rcases unionOf_cases ts with ⟨b, hms, hunion⟩ | ⟨-, hunion⟩
    · simp [hms, hunion]
    · rw [hunion, satisfies_of_union_iff ha]
  rw [hmembers]
  constructor
  · rintro ⟨b, hb, hab⟩
    obtain ⟨t, ht, hbt⟩ := mem_unionMembers.mp hb
    exact ⟨t, ht, (satisfies_of_iff_alternatives ha).mpr ⟨b, hbt, hab⟩⟩
  · rintro ⟨t, ht, hat⟩
    obtain ⟨b, hb, hab⟩ := (satisfies_of_iff_alternatives ha).mp hat
    exact ⟨b, mem_unionMembers.mpr ⟨t, ht, hb⟩, hab⟩

/-! ## Normal types -/

mutual

/-- Every union in the type ascends strictly, holds no union itself and has not just one member. -/
def Normal : TypeDesc → Prop
  | .any => True
  | .prim _ => True
  | .seq item => Normal item
  | .union ms => Ascends ms ∧ ms.length ≠ 1 ∧ NormalMembers ms
  termination_by structural a => a

/-- The types are normal, and none is a union. -/
def NormalMembers : List TypeDesc → Prop
  | [] => True
  | m :: rest => (m.isUnion = false ∧ Normal m) ∧ NormalMembers rest
  termination_by structural ms => ms

end

/-- Several types are members of a normal union if each is normal and no union. -/
theorem normalMembers_iff {ms : List TypeDesc} :
    NormalMembers ms ↔ ∀ m ∈ ms, m.isUnion = false ∧ m.Normal := by
  induction ms with
  | nil => simp [NormalMembers]
  | cons m rest ih => simp [NormalMembers, ih]

/-- The alternatives of a normal type are normal and no unions. -/
theorem Normal.alternatives {t : TypeDesc} (h : t.Normal) :
    ∀ a ∈ t.alternatives, a.isUnion = false ∧ a.Normal := by
  cases t with
  | union ms => exact normalMembers_iff.mp h.2.2
  | _ => exact List.forall_mem_singleton.mpr ⟨rfl, h⟩

section Normal

variable {ts us : List TypeDesc}

/-- The members of a union of normal types are normal and no unions. -/
theorem normal_of_mem_unionMembers (h : ∀ t ∈ ts, t.Normal) :
    ∀ a ∈ unionMembers ts, a.isUnion = false ∧ a.Normal := by
  intro a ha
  obtain ⟨t, ht, hat⟩ := mem_unionMembers.mp ha
  exact (h t ht).alternatives a hat

/-- The union of normal types is normal: flat, ascending, and not of a single member. -/
theorem normal_unionOf (h : ∀ t ∈ ts, t.Normal) : (unionOf ts).Normal := by
  have hmembers := normal_of_mem_unionMembers h
  rcases unionOf_cases ts with ⟨a, hms, hunion⟩ | ⟨hlength, hunion⟩
  · rw [hunion]
    exact (hmembers a (by simp [hms])).2
  · rw [hunion]
    exact ⟨ascends_unionMembers ts, hlength, normalMembers_iff.mpr hmembers⟩

/-- A choice between normal types is normal. -/
theorem Normal.ite {c : Prop} [Decidable c] {a b : TypeDesc} (ha : a.Normal) (hb : b.Normal) :
    (if c then a else b).Normal := by
  split
  · exact ha
  · exact hb

/-- An optional normal type is normal. -/
theorem normal_optional {t : TypeDesc} (h : t.Normal) : (optional t).Normal :=
  normal_unionOf (List.forall_mem_cons.mpr ⟨h, List.forall_mem_singleton.mpr trivial⟩)

/-- The type of all column types is normal. -/
theorem normal_fieldType : fieldType.Normal :=
  normal_unionOf (List.forall_mem_map.mpr fun _ _ => trivial)

/-- The alternatives of a union of normal types are those of its parts, no matter how the parts are
    nested or whether the union comes down to a single type. -/
theorem mem_alternatives_unionOf (h : ∀ t ∈ ts, t.Normal) {a : TypeDesc} :
    a ∈ (unionOf ts).alternatives ↔ ∃ t ∈ ts, a ∈ t.alternatives := by
  rw [← mem_unionMembers]
  rcases unionOf_cases ts with ⟨b, hms, hunion⟩ | ⟨-, hunion⟩
  · -- the single alternative is no union, so it is its own alternative
    have hb : b.isUnion = false := (normal_of_mem_unionMembers h b (by simp [hms])).1
    rw [hms, hunion]
    cases b with
    | union ms => cases hb
    | _ => rfl
  · rw [hunion]
    rfl

/-- Unions of normal types may be formed in parts, because the parts keep their alternatives. -/
theorem unionOf_append (hts : ∀ t ∈ ts, t.Normal) (hus : ∀ u ∈ us, u.Normal) :
    unionOf (ts ++ us) = unionOf [unionOf ts, unionOf us] := by
  refine unionOf_congr fun a => ?_
  simp [or_and_right, exists_or, mem_alternatives_unionOf hts, mem_alternatives_unionOf hus]

end Normal

end SyntheticTables.TypeDesc
