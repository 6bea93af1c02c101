/-
  A row: cells under their field names, in ascending order of the names, each name once.

  The order is part of the type, so two rows with the same cells are equal and a row is written in
  one way only.
-/
import SyntheticTables.Json

namespace SyntheticTables

/-- Names in strictly ascending order. -/
def Ascending {α : Type} (entries : List (String × α)) : Prop :=
  entries.Pairwise fun a b => a.1 < b.1

namespace Json

/-! ## Inserting keeps the order -/

/-- What stands in the list after an insertion is the new member or was there before; a member of
    the same name may have gone. -/
theorem mem_insertMember {α : Type} {name : String} {value : α} {m : String × α} :
    ∀ {entries : List (String × α)}, m ∈ insertMember name value entries →
      m = (name, value) ∨ m ∈ entries
  | [], h => by simpa [insertMember] using h
  | (n, v) :: rest, h => by
    unfold insertMember at h
    split at h
    · simpa using h
    · split at h
      · rcases List.mem_cons.mp h with h | h
        · exact .inl h
        · exact .inr (List.mem_cons_of_mem _ h)
      · rcases List.mem_cons.mp h with h | h
        · exact .inr (h ▸ List.mem_cons_self)
        · rcases mem_insertMember h with h | h
          · exact .inl h
          · exact .inr (List.mem_cons_of_mem _ h)

/-- An insertion keeps names in ascending order: it stops at the first name that is not below the
    new one, and replaces it if it is the same. -/
theorem ascending_insertMember {α : Type} (name : String) (value : α) :
    ∀ {entries : List (String × α)}, Ascending entries → Ascending (insertMember name value entries)
  | [], _ => by simp [insertMember, Ascending]
  | (n, v) :: rest, h => by
    have hc := List.pairwise_cons.mp h
    unfold insertMember
    split
    · rename_i lt
      refine List.pairwise_cons.mpr ⟨fun m hm => ?_, h⟩
      rcases List.mem_cons.mp hm with rfl | hm
      · exact lt
      · exact String.lt_trans lt (hc.1 m hm)
    · split
      · rename_i eq
        exact List.pairwise_cons.mpr ⟨fun m hm => eq ▸ hc.1 m hm, hc.2⟩
      · rename_i nlt ne
        refine List.pairwise_cons.mpr ⟨fun m hm => ?_, ascending_insertMember name value hc.2⟩
        rcases mem_insertMember hm with rfl | hm
        · have le : n ≤ name := String.not_lt.mp nlt
          refine Classical.byContradiction fun hn => ne ?_
          exact String.le_antisymm (String.not_lt.mp hn) le
        · exact hc.1 m hm

/-- So do any number of insertions, one after the other. -/
theorem ascending_foldl_insertMember {α : Type} (members : List (String × α)) :
    ∀ {sorted : List (String × α)}, Ascending sorted →
      Ascending (members.foldl (fun sorted m => insertMember m.1 m.2 sorted) sorted) := by
  induction members with
  | nil => exact fun h => h
  | cons m rest ih => exact fun h => ih (ascending_insertMember m.1 m.2 h)

/-- Sorting by insertion gives ascending names, whatever the order before; of a repeated name one
    member is left. -/
theorem ascending_sortMembers {α : Type} (members : List (String × α)) :
    Ascending (sortMembers members) :=
  ascending_foldl_insertMember members List.Pairwise.nil

end Json

/-! ## Rows -/

/-- A row of a table: cells under the names of their columns.  The order of the names is part of the
    type, so two rows with the same cells are the same row. -/
structure Row where
  cells : List (String × String)
  ascending : Ascending cells

namespace Row

instance : Inhabited Row := ⟨⟨[], List.Pairwise.nil⟩⟩

/-- Rows with the same cells are equal, since the order of the names is no more than a proof. -/
theorem ext {a b : Row} (h : a.cells = b.cells) : a = b := by
  cases a; cases b; cases h; rfl

instance : DecidableEq Row := fun a b =>
  if h : a.cells = b.cells then .isTrue (ext h) else .isFalse fun e => h (congrArg cells e)

/-- The row without a cell, which the draw of a row begins with. -/
def empty : Row := ⟨[], List.Pairwise.nil⟩

/-- Sets a cell; a cell of the same name gives way.  The order is kept by
    `Json.ascending_insertMember`. -/
def insert (r : Row) (name cell : String) : Row :=
  ⟨Json.insertMember name cell r.cells, Json.ascending_insertMember name cell r.ascending⟩

/-- The row of these cells; of a repeated name the last one stays. -/
def ofList (cells : List (String × String)) : Row :=
  ⟨Json.sortMembers cells, Json.ascending_sortMembers cells⟩

/-- The names of the cells, in ascending order. -/
def names (r : Row) : List String := r.cells.map (·.1)

/-- The cell under a name, if there is one. -/
def get? (r : Row) (name : String) : Option String := (r.cells.find? (·.1 = name)).map (·.2)

end Row

end SyntheticTables
