/-
  Documents that differ in their floats only.

  `Alike R` compares two documents as they stand, except that floats need only be related by `R`:
  with equality for `R` it is equality, and with the comparison of floats it is the comparison of
  documents, for which 0.0 and -0.0 are the same.  An encoding reveals a relation between its values
  when decoded documents are alike only if the relation holds (`Reveals`); what it reveals of a value
  it reveals of an optional one and of lists, so what a record reveals is put together from its
  members.
-/
import Mathlib.Data.List.Forall2
import SyntheticTables.Proofs.Json.Sorted

namespace SyntheticTables.Json

variable {R : Float → Float → Prop}

/-! ## Alike documents -/

/-- Numbers of the same kind: integers as they are, floats that are related. -/
inductive Number.Alike (R : Float → Float → Prop) : Number → Number → Prop
  | unsigned (n : UInt64) : Alike R (.unsigned n) (.unsigned n)
  | negative (i : Int64) : Alike R (.negative i) (.negative i)
  | float {x y : Float} (h : R x y) : Alike R (.float x) (.float y)

/-- Documents of the same shape, whose members stand in the same order under the same names and
    whose floats are related pairwise. -/
inductive Alike (R : Float → Float → Prop) : Json → Json → Prop
  | null : Alike R .null .null
  | bool (b : Bool) : Alike R (.bool b) (.bool b)
  | num {m n : Number} (h : m.Alike R n) : Alike R (.num m) (.num n)
  | str (s : String) : Alike R (.str s) (.str s)
  | arr {items items' : List Json} (h : List.Forall₂ (Alike R) items items') :
      Alike R (.arr items) (.arr items')
  | obj {members members' : List (String × Json)}
      (names : members.map (·.1) = members'.map (·.1))
      (values : List.Forall₂ (Alike R) (members.map (·.2)) (members'.map (·.2))) :
      Alike R (.obj members) (.obj members')

mutual

/-- A document is like itself if every float is related to itself. -/
theorem Alike.refl (hR : ∀ x, R x x) : ∀ j : Json, Alike R j j
  | .null => .null
  | .bool b => .bool b
  | .num (.unsigned n) => .num (.unsigned n)
  | .num (.negative i) => .num (.negative i)
  | .num (.float x) => .num (.float (hR x))
  | .str s => .str s
  | .arr items => .arr (items_alike_refl hR items)
  | .obj members => .obj rfl (values_alike_refl hR members)

/-- So are the elements of a list, pairwise. -/
theorem items_alike_refl (hR : ∀ x, R x x) : ∀ items : List Json,
    List.Forall₂ (Alike R) items items
  | [] => .nil
  | item :: rest => .cons (Alike.refl hR item) (items_alike_refl hR rest)

/-- So are the values in an object, pairwise. -/
theorem values_alike_refl (hR : ∀ x, R x x) : ∀ members : List (String × Json),
    List.Forall₂ (Alike R) (members.map (·.2)) (members.map (·.2))
  | [] => .nil
  | (_, value) :: rest => .cons (Alike.refl hR value) (values_alike_refl hR rest)

end

/-- Alike documents have the same members, and these are alike.  The names of two alike objects
    agree place by place, so under each name the same place is found in both. -/
theorem Alike.member? {j k : Json} (h : Alike R j k) (name : String) :
    Option.Rel (Alike R) (j.member? name) (k.member? name) := by
  cases h with
  -- along both lists of members at once; the names agree at each place
  | @obj members members' names values =>
    induction members generalizing members' with
    | nil =>
      obtain rfl : members' = [] := by simpa using names.symm
      exact .none
    | cons m rest ih =>
      cases members' with
      | nil => cases names
      | cons m' rest' =>
        obtain ⟨hname, hnames⟩ := List.cons.inj names
        have hname : m.1 = m'.1 := hname
        obtain ⟨hvalue, hvalues⟩ := List.forall₂_cons.mp values
        rw [member?_cons, member?_cons, hname]
        split
        · exact .some hvalue
        · exact ih hnames hvalues
  | _ => exact .none

/-! ## Encodings -/

/-- Documents of two values are alike only if the values are related. -/
def Reveals {α : Type} (R : Float → Float → Prop) (encode : α → Json) (S : α → α → Prop) : Prop :=
  ∀ ⦃a b : α⦄, Alike R (encode a).decoded (encode b).decoded → S a b

variable {α : Type} {encode : α → Json} {S : α → α → Prop}

/-- What is revealed of a member that has to be there. -/
theorem Reveals.needed (h : Reveals R encode S) {a b : α}
    (hrel : Option.Rel (Alike R) (some (encode a).decoded) (some (encode b).decoded)) : S a b := by
  cases hrel with
  | some hab => exact h hab

/-- Optional values that are related by equality are equal. -/
theorem eq_of_rel {o o' : Option α} (h : Option.Rel Eq o o') : o = o' := by
  cases h with
  | none => rfl
  | some h => rw [h]

/-- What an encoding reveals of a value it reveals of one that may be absent, and also whether it
    is.  An absent value leaves out its member, so this is where two documents may differ in their
    names. -/
theorem Reveals.option (h : Reveals R encode S) {o o' : Option α}
    (hrel : Option.Rel (Alike R) ((o.map encode).map decoded) ((o'.map encode).map decoded)) :
    Option.Rel S o o' := by
  cases o with
  | none =>
    cases o' with
    | none => exact .none
    | some b => cases hrel
  | some a =>
    cases o' with
    | none => cases hrel
    | some b =>
      cases hrel with
      | some hab => exact .some (h hab)

/-- What is revealed of good values only. -/
theorem Reveals.option_of {P : α → Prop} (h : Reveals R encode fun a b => P a → P b → S a b)
    {o o' : Option α}
    (hrel : Option.Rel (Alike R) ((o.map encode).map decoded) ((o'.map encode).map decoded))
    (ho : ∀ a ∈ o, P a) (ho' : ∀ b ∈ o', P b) : Option.Rel S o o' := by
  have hall := h.option hrel
  clear hrel
  cases hall with
  | none => exact .none
  | some hab => exact .some (hab (ho _ rfl) (ho' _ rfl))

/-- What is revealed exactly shows whether it is there, too. -/
theorem Reveals.eq_of_option (h : Reveals R encode Eq) {o o' : Option α}
    (hrel : Option.Rel (Alike R) ((o.map encode).map decoded) ((o'.map encode).map decoded)) :
    o = o' :=
  eq_of_rel (h.option hrel)

/-- What an encoding reveals of a value it reveals of a list, element by element. -/
theorem Reveals.list (h : Reveals R encode S) :
    Reveals R (fun as : List α => .arr (as.map encode)) (List.Forall₂ S) := by
  intro as bs hitems
  simp only [decoded_arr, List.map_map] at hitems
  cases hitems with
  | arr hitems =>
    rw [List.forall₂_map_left_iff, List.forall₂_map_right_iff] at hitems
    exact hitems.imp fun a b hab => h hab

/-- What is revealed of good values only is revealed of lists of them, element by element; the
    conditions on both lists are taken apart along with the lists. -/
theorem Reveals.list_of {P : α → Prop} (h : Reveals R encode fun a b => P a → P b → S a b) :
    Reveals R (fun as : List α => .arr (as.map encode)) fun as bs =>
      (∀ a ∈ as, P a) → (∀ b ∈ bs, P b) → List.Forall₂ S as bs := by
  intro as bs hitems has hbs
  have hall := h.list hitems
  clear hitems
  induction hall with
  | nil => exact .nil
  | cons hab _ ih =>
    obtain ⟨ha, has⟩ := List.forall_mem_cons.mp has
    obtain ⟨hb, hbs⟩ := List.forall_mem_cons.mp hbs
    exact .cons (hab ha hb) (ih has hbs)

/-- If the encoding determines a value, that of lists determines a list. -/
theorem Reveals.eq_of_list (h : Reveals R encode Eq) :
    Reveals R (fun as : List α => .arr (as.map encode)) Eq := by
  intro as bs hitems
  have hall := h.list hitems
  rwa [List.forall₂_eq_eq_eq] at hall

/-- Flags are written as they are, so they are revealed. -/
theorem reveals_bool : Reveals R .bool Eq := by
  intro a b h
  cases h with
  | bool => rfl

/-- Texts are written as they are, so they are revealed. -/
theorem reveals_str : Reveals R .str Eq := by
  intro a b h
  cases h with
  | str => rfl

/-- Lists of texts are revealed, since each text is. -/
theorem reveals_ofStrings : Reveals R ofStrings Eq := reveals_str.eq_of_list

/-- Integers without a sign are revealed, because they are no floats. -/
theorem reveals_ofUInt64 : Reveals R ofUInt64 Eq := by
  intro a b h
  cases h with
  | num h =>
    cases h with
    | unsigned => rfl

/-- Alike numbers are equal if they are integers. -/
theorem Number.Alike.eq_of_ne_float {m n : Number} (h : m.Alike R n) (hm : ∀ x, m ≠ .float x) :
    m = n := by
  cases h with
  | float => exact absurd rfl (hm _)
  | _ => rfl

/-- Integers with a sign are revealed as well: in neither of their two forms are they floats. -/
theorem reveals_ofInt64 : Reveals R ofInt64 Eq := by
  intro i j h
  have hint : ∀ x, Number.ofInt64 i ≠ .float x := by
    intro x
    unfold Number.ofInt64
    split <;> exact nofun
  rw [decoded_ofInt64, decoded_ofInt64] at h
  cases h with
  | num h => exact ofInt64_inj.mp (congrArg Json.num (h.eq_of_ne_float hint))

/-- Of floats a decoded document has the finite ones only; of two of those it reveals that they are
    related, which for the usual comparison is less than being equal. -/
theorem reveals_ofFloat :
    Reveals R ofFloat fun x y => x.isFinite = true → y.isFinite = true → R x y := by
  intro x y h hx hy
  rw [decoded_ofFloat hx, decoded_ofFloat hy] at h
  cases h with
  | num h =>
    cases h with
    | float h => exact h

end SyntheticTables.Json
