/-
  The check of a package and what it stands for.

  Each check succeeds exactly when its `Valid` holds: for a column type, for the columns of a schema
  and for a resource.  The rows of a resource are compared with the ascending names of the columns; two
  ascending lists of names are equal as soon as they have the same members
  (`eq_of_ascending`), which is why the order does not show in `TableResource.Valid`.
-/
import SyntheticTables.Proofs.Checks
import SyntheticTables.Table.Validity

namespace SyntheticTables

/-! ## Rows -/

namespace Json

/-- The member that is put in is there, and the other names stay.  One that had the same name is
    replaced, so its name stays as well. -/
theorem mem_names_insertMember {α : Type} {name : String} {value : α} {n : String} :
    ∀ {entries : List (String × α)}, n ∈ (insertMember name value entries).map (·.1) ↔
      n = name ∨ n ∈ entries.map (·.1)
  | [] => by simp [insertMember]
  | (m, v) :: rest => by
    unfold insertMember
    split
    · simp
    · split
      · rename_i heq
        simp [heq]
      · simp only [List.map_cons, List.mem_cons, mem_names_insertMember]
        exact or_left_comm

/-- Putting in several members adds their names and loses none. -/
theorem mem_names_foldl_insertMember {α : Type} {n : String} (members : List (String × α)) :
    ∀ (sorted : List (String × α)),
      n ∈ (members.foldl (fun sorted m => insertMember m.1 m.2 sorted) sorted).map (·.1) ↔
        n ∈ members.map (·.1) ∨ n ∈ sorted.map (·.1) := by
  induction members with
  | nil => simp
  | cons m rest ih =>
    intro sorted
    rw [List.foldl_cons, ih, mem_names_insertMember, List.map_cons, List.mem_cons]
    exact or_left_comm.trans or_assoc.symm

/-- Looking a name up behind an insertion finds the new value under its own name and changes nothing
    for the others.  By induction along the entries, as the insertion goes. -/
theorem find?_insertMember {α : Type} {name : String} {value : α} {n : String} :
    ∀ {entries : List (String × α)}, (insertMember name value entries).find? (·.1 = n)
      = if n = name then some (name, value) else entries.find? (·.1 = n)
  | [] => by
    by_cases h : n = name
    · simp [insertMember, h]
    · simp [insertMember, h, Ne.symm h]
  | (m, v) :: rest => by
    unfold insertMember
    split
    · rw [List.find?_cons]
      by_cases h : n = name
      · simp [h]
      · simp [h, Ne.symm h]
    · split
      · rename_i heq
        subst heq
        by_cases h : n = name
        · simp [h]
        · simp [h, Ne.symm h]
      -- behind an entry of another name
      · rename_i hne
        by_cases hm : m = n
        · simp [hm, show n ≠ name from fun h => hne (h ▸ hm.symm)]
        · simp only [List.find?_cons, hm, decide_false]
          exact find?_insertMember

end Json

namespace Row

/-- Putting a cell into a row adds its name, if it was not there. -/
theorem mem_names_insert {r : Row} {name cell n : String} :
    n ∈ (r.insert name cell).names ↔ n = name ∨ n ∈ r.names :=
  Json.mem_names_insertMember

/-- It is then found under this name; the other cells stay. -/
theorem get?_insert {r : Row} {name cell n : String} :
    (r.insert name cell).get? n = if n = name then some cell else r.get? n := by
  unfold get?
  rw [insert, Json.find?_insertMember]
  split <;> rfl

/-- The names of a row stand in ascending order. -/
theorem names_ascending (r : Row) : r.names.Pairwise (· < ·) := List.pairwise_map.mpr r.ascending

end Row

/-! ## Names in ascending order -/

/-- Ascending lists with the same members are equal. -/
theorem eq_of_ascending {xs ys : List String} (hx : xs.Pairwise (· < ·))
    (hy : ys.Pairwise (· < ·)) (h : ∀ n, n ∈ xs ↔ n ∈ ys) : xs = ys := by
  have hnodup : ∀ {zs : List String}, zs.Pairwise (· < ·) → zs.Nodup := fun hz =>
    hz.imp fun {a b} (hab : a < b) (heq : a = b) => String.lt_irrefl a (heq ▸ hab)
  -- no name twice and the same names: one list is a rearrangement of the other
  have hperm := (List.perm_ext_iff_of_nodup (hnodup hx) (hnodup hy)).mpr h
  exact hperm.eq_of_pairwise (fun a b _ _ hab hba => absurd hab (String.lt_asymm hba)) hx hy

/-- Sorting puts the names of columns in ascending order. -/
theorem ascendingNames_ascending (names : List String) :
    (ascendingNames names).Pairwise (· < ·) :=
  List.pairwise_map.mpr (Json.ascending_sortMembers _)

/-- Sorting names neither loses nor adds one. -/
theorem mem_ascendingNames {names : List String} {n : String} :
    n ∈ ascendingNames names ↔ n ∈ names := by
  unfold ascendingNames Json.sortMembers
  rw [Json.mem_names_foldl_insertMember]
  simp

/-- A row has the names of some columns in order as soon as it has the same names. -/
theorem Row.names_eq_iff {r : Row} {names : List String} :
    r.names = ascendingNames names ↔ ∀ n, n ∈ r.names ↔ n ∈ names := by
  constructor
  · intro h n
    rw [h, mem_ascendingNames]
  · intro h
    refine eq_of_ascending r.names_ascending (ascendingNames_ascending names) fun n => ?_
    rw [h n, mem_ascendingNames]

/-! ## Column types -/

/-- Bounds contradict each other only if both are there. -/
theorem inverted_eq_false_iff {α : Type} [LT α] [DecidableLT α] {lower upper : Option α} :
    inverted lower upper = false ↔ ∀ a ∈ lower, ∀ b ∈ upper, ¬ b < a := by
  cases lower <;> cases upper <;> simp [inverted]

/-- Nothing is wrong with a column type exactly when it is valid: bounds in order for three kinds,
    levels that differ and are not empty for the other two. -/
theorem FieldType.fault?_eq_none_iff {field : String} : ∀ {t : FieldType},
    t.fault? field = none ↔ t.Valid
  | .integer t => by
    simp only [fault?, FieldType.Valid, ← Int64.not_lt, ← inverted_eq_false_iff]
    split <;> simp [*]
  | .number t => by
    simp only [fault?, FieldType.Valid, ← inverted_eq_false_iff]
    split <;> simp [*]
  | .string t => by
    simp only [fault?, FieldType.Valid, ← UInt64.not_lt, ← inverted_eq_false_iff]
    split <;> simp [*]
  | .enumInteger t => by
    simp only [fault?, FieldType.Valid]
    split
    · simp_all
    · simp_all [firstRepeated?_eq_none_iff]
  | .enumString t => by
    simp only [fault?, FieldType.Valid]
    split
    · simp_all
    · simp_all [firstRepeated?_eq_none_iff]

/-! ## Schemas -/

/-- Columns pass the check when each is valid by itself, no two have one name, and none has a name
    that was seen before them.  By induction on the columns; what was seen grows by one name each
    time. -/
theorem checkFields_eq_ok_iff : ∀ {fields : List Field} {seen : List String},
    checkFields seen fields = .ok () ↔ (∀ f ∈ fields, f.name ≠ "" ∧ f.type.Valid) ∧
      (fields.map Field.name).Nodup ∧ ∀ f ∈ fields, f.name ∉ seen
  | [], seen => by simp [checkFields]
  | f :: rest, seen => by
    unfold checkFields
    by_cases hname : f.name = ""
    · simp [hname]
    · by_cases hseen : f.name ∈ seen
      · simp [hname, hseen]
      · cases hfault : f.type.fault? f.name with
        | some fault =>
          have hinvalid : ¬ f.type.Valid := fun h => by
            rw [FieldType.fault?_eq_none_iff.mpr h] at hfault
            cases hfault
          simp [hname, hseen, hinvalid]
        | none =>
          have hvalid : f.type.Valid := FieldType.fault?_eq_none_iff.mp hfault
          simp only [hname, hseen, hvalid, List.contains_eq_mem, decide_false, if_false,
            Bool.false_eq_true, checkFields_eq_ok_iff, List.mem_cons, not_or, List.map_cons,
            List.nodup_cons, forall_eq_or_imp, not_false_eq_true, true_and, ne_eq, List.mem_map,
            not_exists, not_and]
          -- the name joins those seen for the rest; read together, no name is twice in the list
          constructor
          · rintro ⟨htyped, hnodup, hfresh⟩
            exact ⟨htyped, ⟨fun g hg => (hfresh g hg).1, hnodup⟩, fun g hg => (hfresh g hg).2⟩
          · rintro ⟨htyped, ⟨hfirst, hnodup⟩, hfresh⟩
            exact ⟨htyped, hnodup, fun g hg => ⟨hfirst g hg, hfresh g hg⟩⟩

/-- The check of a schema decides its validity. -/
theorem TableSchema.check_eq_ok_iff {s : TableSchema} : s.check = .ok () ↔ s.Valid := by
  unfold TableSchema.check
  rw [checkFields_eq_ok_iff]
  constructor
  · rintro ⟨htyped, hnodup, -⟩
    exact ⟨fun f hf => (htyped f hf).1, hnodup, fun f hf => (htyped f hf).2⟩
  · intro h
    exact ⟨fun f hf => ⟨h.named f hf, h.typed f hf⟩, h.distinct, by simp⟩

/-! ## Resources and packages -/

/-- Rows pass when each has the names of the columns, neither more nor less.  The names of a row are
    in ascending order, so the check compares two lists, and this is what it comes to. -/
theorem checkRows_eq_ok_iff {names : List String} : ∀ {rows : List Row} {index : Nat},
    checkRows (ascendingNames names) index rows = .ok () ↔
      ∀ row ∈ rows, ∀ n, n ∈ row.names ↔ n ∈ names
  | [], index => by simp [checkRows]
  | r :: rest, index => by
    unfold checkRows
    split
    · rename_i h
      simp [checkRows_eq_ok_iff, Row.names_eq_iff.mp h]
    · rename_i h
      refine iff_of_false (by simp) fun hall => h ?_
      exact Row.names_eq_iff.mpr (hall r List.mem_cons_self)

/-- The check of a table decides its validity: its schema, the number of its rows, and each row. -/
theorem TableResource.check_eq_ok_iff {r : TableResource} : r.check = .ok () ↔ r.Valid := by
  unfold TableResource.check
  simp only [mapError_eq_ok_iff, seq_eq_ok_iff, throw_eq_error, refuse_seq_eq_ok_iff,
    TableSchema.check_eq_ok_iff, checkRows_eq_ok_iff, ne_eq, Classical.not_not]
  exact ⟨fun ⟨hschema, hcount, hrows⟩ => ⟨hschema, hcount, hrows⟩,
    fun h => ⟨h.schema, h.count, h.rows⟩⟩

/-- The check goes through all tables. -/
theorem checkResources_eq_ok_iff : ∀ {rs : List TableResource},
    checkResources rs = .ok () ↔ ∀ r ∈ rs, r.Valid
  | [] => by simp [checkResources]
  | r :: rest => by
    simp only [checkResources, seq_eq_ok_iff, TableResource.check_eq_ok_iff,
      checkResources_eq_ok_iff, List.mem_cons, forall_eq_or_imp]

end SyntheticTables
