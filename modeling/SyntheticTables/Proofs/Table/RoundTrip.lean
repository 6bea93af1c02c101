/-
  Package documents are read back.

  Every record of a package is read from the sorted view of what is written for it
  (`ofJson_sorted`, one for each kind of record), whatever is left out: its slots fill fields of
  their own, so the order does not matter, and an absent field is the one the reader starts from.  A
  column type is found by its tag first, wherever the tag has come to stand.  With finite bounds the
  decoded document is the sorted view, and so a whole package is read back from it.
-/
import SyntheticTables.Proofs.Record
import SyntheticTables.Proofs.Table.Document

namespace SyntheticTables

open Json (sortedValues)
open Record

/-! ## Columns -/

/-- Each slot of the metadata fills a field of its own, and no two have one name.  The same holds of
    the other records of a package, for the same reason. -/
theorem FieldMeta.slots_lawful : Lawful FieldMeta.slots where
  commute := by simp [slots, Slot.needed, Slot.optional, Slot.commutes_of_put]
  distinct := by decide

/-- What is written of the metadata goes through its slots in order: a name, then a title and a
    description that may be left out. -/
theorem FieldMeta.ofJson_sorted (m : FieldMeta) : FieldMeta.ofJson m.toJson.sorted = .ok m := by
  refine Record.ofJson_sorted slots_lawful ?_
  simp only [Json.sortedValues_append, Json.sortedValues_optional, List.append_assoc]
  exact .needed rfl (.optional (fun _ => rfl) rfl (.last (fun _ => rfl) rfl))

/-- A text of digits is no integer, so each value is read as what it was. -/
theorem LevelValue.ofJson_sorted (v : LevelValue) : LevelValue.ofJson v.toJson.sorted = .ok v := by
  cases v with
  | int i =>
    show LevelValue.ofJson (.ofInt64 i) = .ok (.int i)
    unfold LevelValue.ofJson
    rw [Json.asInt64_ofInt64]
  | text s => rfl

theorem Level.slots_lawful : Lawful Level.slots where
  commute := by simp [slots, Slot.needed, Slot.optional, Slot.commutes_of_put]
  distinct := by decide

/-- A level is read from what is written for it. -/
theorem Level.ofJson_sorted (l : Level) : Level.ofJson l.toJson.sorted = .ok l := by
  refine Record.ofJson_sorted slots_lawful ?_
  simp only [Json.sortedValues_append, Json.sortedValues_optional]
  exact .needed l.value.ofJson_sorted (.last (fun _ => rfl) rfl)

/-- An integer that may be missing is read back. -/
theorem Json.asOption_ofInt64 (i : Int64) :
    (Json.ofInt64 i).sorted.asOption Json.asInt64 = .ok (some i) :=
  Json.asOption_eq_ok (by rintro ⟨⟩) (Json.asInt64_ofInt64 i)

/-- A list of texts that may be missing is read back. -/
theorem Json.asOption_ofStrings (xs : List String) :
    (Json.ofStrings xs).sorted.asOption Json.asTexts = .ok (some xs) :=
  Json.asOption_eq_ok (by simp [Json.ofStrings]) (Json.asTexts_sorted xs)

theorem IntegerType.slots_lawful : Lawful IntegerType.slots where
  commute := by simp [slots, Slot.optional, Slot.commutes_of_put]
  distinct := by decide

/-- The members of an integer column stand in the order of its slots, each left out where there is
    nothing to say. -/
theorem IntegerType.written (t : IntegerType) :
    Written IntegerType.slots {} (sortedValues (FieldType.integer t).members) t := by
  simp only [FieldType.members, Json.sortedValues_append, Json.sortedValues_optional,
    List.append_assoc]
  exact .optional (fun _ => rfl) rfl <| .optional (fun _ => rfl) rfl <|
    .optional Json.asOption_ofInt64 rfl <| .optional Json.asOption_ofInt64 rfl <|
    .last Json.asOption_ofStrings rfl

theorem EnumIntegerType.slots_lawful : Lawful EnumIntegerType.slots where
  commute := by simp [slots, Slot.needed, Slot.optional, Slot.commutes_of_put]
  distinct := by decide

/-- The levels come first here, and are always written, even if there are none. -/
theorem EnumIntegerType.written (t : EnumIntegerType) :
    Written EnumIntegerType.slots { levels := [] } (sortedValues (FieldType.enumInteger t).members)
      t := by
  have hlevels := Json.asListOf_sorted fun l (_ : l ∈ t.levels) => l.ofJson_sorted
  simp only [FieldType.members, Json.sortedValues_append, Json.sortedValues_optional,
    List.append_assoc]
  exact .needed hlevels <| .optional (fun _ => rfl) rfl <| .optional (fun _ => rfl) rfl <|
    .optional (fun _ => rfl) rfl <| .last Json.asOption_ofStrings rfl

theorem NumberType.slots_lawful : Lawful NumberType.slots where
  commute := by simp [slots, Slot.optional, Slot.commutes_of_put]
  distinct := by decide

/-- As for integers, with floats for bounds. -/
theorem NumberType.written (t : NumberType) :
    Written NumberType.slots {} (sortedValues (FieldType.number t).members) t := by
  simp only [FieldType.members, Json.sortedValues_append, Json.sortedValues_optional,
    List.append_assoc]
  exact .optional (fun _ => rfl) rfl <| .optional (fun _ => rfl) rfl <|
    .optional (fun _ => rfl) rfl <| .optional (fun _ => rfl) rfl <|
    .last Json.asOption_ofStrings rfl

theorem StringType.slots_lawful : Lawful StringType.slots where
  commute := by simp [slots, Slot.optional, Slot.commutes_of_put]
  distinct := by decide

/-- As for integers, with lengths and a pattern instead of bounds. -/
theorem StringType.written (t : StringType) :
    Written StringType.slots {} (sortedValues (FieldType.string t).members) t := by
  simp only [FieldType.members, Json.sortedValues_append, Json.sortedValues_optional,
    List.append_assoc]
  exact .optional (fun _ => rfl) rfl <| .optional (fun _ => rfl) rfl <|
    .optional (fun _ => rfl) rfl <| .optional (fun _ => rfl) rfl <|
    .optional (fun _ => rfl) rfl <| .last Json.asOption_ofStrings rfl

theorem EnumStringType.slots_lawful : Lawful EnumStringType.slots where
  commute := by simp [slots, Slot.needed, Slot.optional, Slot.commutes_of_put]
  distinct := by decide

/-- As for integer levels, with texts. -/
theorem EnumStringType.written (t : EnumStringType) :
    Written EnumStringType.slots { levels := [] } (sortedValues (FieldType.enumString t).members)
      t := by
  simp only [FieldType.members, Json.sortedValues_append, Json.sortedValues_optional,
    List.append_assoc]
  exact .needed (Json.asTexts_sorted t.levels) <| .optional (fun _ => rfl) rfl <|
    .optional (fun _ => rfl) rfl <| .optional (fun _ => rfl) rfl <|
    .last Json.asOption_ofStrings rfl

/-! ## Tagged columns -/

namespace FieldType

/-- Every kind of column is one that the reader knows. -/
theorem kind_mem_kinds (t : FieldType) : t.kind ∈ kinds := by
  cases t <;> simp [kind, kinds]

/-- Wherever the tag stands, the other members are the body, in whatever order: the reader takes the
    tag out by its name and hands on the rest. -/
theorem ofJson_of_perm {ms body : List (String × Json)} {t : FieldType}
    (hperm : ms.Perm (("kind", .str t.kind) :: body)) (hbody : ∀ m ∈ body, m.1 ≠ "kind") :
    ∃ rest, body.Perm rest ∧ FieldType.ofJson (.obj ms) = ofBody t.kind (.obj rest) := by
  have htag : (("kind", Json.str t.kind) :: body).filter (·.1 = "kind")
      = [("kind", .str t.kind)] := by
    rw [List.filter_cons_of_pos (by simp), List.filter_eq_nil_iff.mpr (by simpa using hbody)]
  have hothers : (("kind", Json.str t.kind) :: body).filter (not ∘ fun m => decide (m.1 = "kind"))
      = body := by
    rw [List.filter_cons_of_neg (by simp), List.filter_eq_self.mpr (by simpa using hbody)]
  -- a rearrangement of one member is that member
  have hfirst : ms.filter (·.1 = "kind") = [("kind", .str t.kind)] :=
    List.perm_singleton.mp (htag ▸ hperm.filter _)
  refine ⟨ms.filter (not ∘ fun m => decide (m.1 = "kind")), hothers ▸ (hperm.filter _).symm, ?_⟩
  unfold FieldType.ofJson
  simp only [List.partition_eq_filter_filter, hfirst, kindOfTag, t.kind_mem_kinds, if_true]
  rfl

/-- A column type is read as its body is, in whatever order this stands.  The tag is none of the
    body's members, so taking it out leaves a rearrangement of them. -/
theorem ofJson_sorted_of_body {ρ : Type} {slots : List (Slot ρ)} {start r : ρ} {t : FieldType}
    (hslots : Lawful slots) (hkind : "kind" ∉ slots.map (·.name))
    (hwritten : Written slots start (sortedValues t.members) r)
    (hbody : ∀ ms, ofMembers slots start ms = .ok r → ofBody t.kind (.obj ms) = .ok t) :
    FieldType.ofJson t.toJson.sorted = .ok t := by
  have hsub := hwritten.names_sublist
  have hother : ∀ m ∈ sortedValues t.members, m.1 ≠ "kind" := by
    intro m hm heq
    exact hkind (hsub.subset (List.mem_map.mpr ⟨m, hm, heq⟩))
  have hdistinct : DistinctNames (("kind", Json.str t.kind) :: sortedValues t.members) :=
    List.nodup_cons.mpr ⟨fun hmem => hkind (hsub.subset hmem), hsub.nodup hslots.distinct⟩
  obtain ⟨rest, hrest, hread⟩ := ofJson_of_perm (Json.perm_sortMembers hdistinct) hother
  show FieldType.ofJson (.obj (Json.sortMembers
    (("kind", Json.str t.kind) :: sortedValues t.members))) = .ok t
  rw [hread]
  exact hbody rest (ofMembers_of_written hslots hwritten hrest)

/-- Each column type is read from what is written for it; the kinds differ in their slots only.
    Sorting moves the tag behind the members that come before it, which makes no difference. -/
theorem ofJson_sorted (t : FieldType) : FieldType.ofJson t.toJson.sorted = .ok t := by
  cases t with
  | integer t =>
    exact ofJson_sorted_of_body IntegerType.slots_lawful (by decide) t.written
      fun ms h => congrArg (Except.map FieldType.integer) h
  | enumInteger t =>
    exact ofJson_sorted_of_body EnumIntegerType.slots_lawful (by decide) t.written
      fun ms h => congrArg (Except.map FieldType.enumInteger) h
  | number t =>
    exact ofJson_sorted_of_body NumberType.slots_lawful (by decide) t.written
      fun ms h => congrArg (Except.map FieldType.number) h
  | string t =>
    exact ofJson_sorted_of_body StringType.slots_lawful (by decide) t.written
      fun ms h => congrArg (Except.map FieldType.string) h
  | enumString t =>
    exact ofJson_sorted_of_body EnumStringType.slots_lawful (by decide) t.written
      fun ms h => congrArg (Except.map FieldType.enumString) h

end FieldType

/-! ## Tables -/

theorem Field.slots_lawful : Lawful Field.slots where
  commute := by simp [slots, Slot.needed, Slot.commutes_of_put]
  distinct := by decide

/-- Both members of a column are always written. -/
theorem Field.ofJson_sorted (f : Field) : Field.ofJson f.toJson.sorted = .ok f :=
  Record.ofJson_sorted slots_lawful
    (.needed f.info.ofJson_sorted (.needed f.type.ofJson_sorted (.nil _)))

theorem TableSchema.slots_lawful : Lawful TableSchema.slots where
  commute := by simp [slots, Slot.needed, Slot.optional, Slot.commutes_of_put]
  distinct := by decide

/-- A schema is read from what is written for it. -/
theorem TableSchema.ofJson_sorted (s : TableSchema) :
    TableSchema.ofJson s.toJson.sorted = .ok s := by
  have hfields := Json.asListOf_sorted fun f (_ : f ∈ s.fields) => f.ofJson_sorted
  refine Record.ofJson_sorted slots_lawful ?_
  simp only [Json.sortedValues_append, Json.sortedValues_optional, List.append_assoc]
  exact .needed hfields <| .optional Json.asOption_ofStrings rfl <| .needed rfl (.nil _)

namespace Row

/-- Cells are read one after the other, each put into the row at its place. -/
theorem readCells_texts (cells : List (String × String)) : ∀ r : Row,
    readCells r (cells.map fun c => (c.1, .str c.2))
      = .ok (cells.foldl (fun r c => r.insert c.1 c.2) r) := by
  induction cells with
  | nil => exact fun _ => rfl
  | cons c rest ih => exact fun r => ih (r.insert c.1 c.2)

/-- Putting cells into a row sorts them. -/
theorem cells_foldl_insert (cells : List (String × String)) : ∀ r : Row,
    (cells.foldl (fun r c => r.insert c.1 c.2) r).cells
      = cells.foldl (fun sorted c => Json.insertMember c.1 c.2 sorted) r.cells := by
  induction cells with
  | nil => exact fun _ => rfl
  | cons c rest ih => exact fun r => ih (r.insert c.1 c.2)

/-- The cells stand in ascending order already. -/
theorem toJson_sorted (r : Row) : r.toJson.sorted = r.toJson := by
  have hvalues : Json.sortedValues (r.cells.map fun c => (c.1, Json.str c.2))
      = r.cells.map fun c => (c.1, .str c.2) := by
    rw [Json.sortedValues_eq_map, List.map_map]
    rfl
  have hascending : Ascending (r.cells.map fun c => (c.1, Json.str c.2)) :=
    List.pairwise_map.mpr r.ascending
  show Json.obj (Json.sortMembers (Json.sortedValues (r.cells.map fun c => (c.1, Json.str c.2))))
    = .obj (r.cells.map fun c => (c.1, .str c.2))
  rw [hvalues, Json.sortMembers_eq_of_perm (List.Perm.refl _) hascending]

/-- A row is read from what is written for it: its cells are sorted, and putting them in one by one
    sorts them again. -/
theorem ofJson_sorted (r : Row) : Row.ofJson r.toJson.sorted = .ok r := by
  rw [r.toJson_sorted]
  show readCells empty (r.cells.map fun c => (c.1, .str c.2)) = .ok r
  rw [readCells_texts]
  refine congrArg Except.ok (Row.ext ?_)
  rw [cells_foldl_insert]
  exact Json.sortMembers_eq_of_perm (List.Perm.refl _) r.ascending

end Row

theorem TableResource.slots_lawful : Lawful TableResource.slots where
  commute := by simp [slots, Slot.needed, Slot.optional, Slot.commutes_of_put]
  distinct := by decide

/-- A table is read from what is written for it. -/
theorem TableResource.ofJson_sorted (r : TableResource) :
    TableResource.ofJson r.toJson.sorted = .ok r := by
  have hrows := Json.asListOf_sorted fun row (_ : row ∈ r.rows) => row.ofJson_sorted
  refine Record.ofJson_sorted slots_lawful ?_
  simp only [Json.sortedValues_append, Json.sortedValues_optional, List.append_assoc]
  exact .needed rfl <| .optional (fun _ => rfl) rfl <|
    .needed r.schema.ofJson_sorted <| .needed hrows (.nil _)

theorem Package.slots_lawful : Lawful Package.slots where
  commute := by simp [slots, Slot.needed, Slot.optional, Slot.commutes_of_put]
  distinct := by decide

/-- A package is read from the sorted view of what is written for it, whatever was left out. -/
theorem Package.ofJson_sorted (p : Package) : Package.ofJson p.toJson.sorted = .ok p := by
  have hresources := Json.asListOf_sorted fun r (_ : r ∈ p.resources) => r.ofJson_sorted
  refine Record.ofJson_sorted slots_lawful ?_
  simp only [Json.sortedValues_append, Json.sortedValues_optional, List.append_assoc]
  exact .needed rfl <| .optional (fun _ => rfl) rfl <| .needed hresources (.nil _)

/-! ## Decoded documents -/

namespace Package

/-- A package with finite bounds is read back from its decoded document, field by field as it
    was. -/
theorem ofJson_decoded {p : Package} (h : p.Finite) : Package.ofJson p.toJson.decoded = .ok p := by
  rw [Json.decoded_eq_sorted p.toJson (proper_toJson h)]
  exact p.ofJson_sorted

/-- A package of one table, with the level 3 beside the level "3", a bound of 0.5, and an empty list
    of missing values beside an absent one. -/
def mixed : Package where
  name := "p"
  resources := [{
    name := "r"
    description := some ""
    schema := {
      fields := [
        ⟨{ name := "b", title := some "B" },
          .enumInteger { levels := [{ value := .int 3, label := some "x" }, { value := .text "3" }] }⟩,
        ⟨{ name := "a" }, .number { minimum := some 0.5, missingValues := some [] }⟩]
      rowCount := 1 }
    rows := [.ofList [("b", "3"), ("a", "0.75")]] }]

/-- This package, whose one float is finite, is read back: the two levels stay apart, and so do the
    two lists. -/
theorem ofJson_decoded_mixed : mixed.Finite ∧ Package.ofJson mixed.toJson.decoded = .ok mixed := by
  have hbound : (0.5 : Float).isFinite = true := by decide +kernel
  have hfinite : mixed.Finite := by
    simp [mixed, Finite, TableResource.Finite, TableSchema.Finite, Field.Finite, FieldType.Finite,
      hbound]
  exact ⟨hfinite, ofJson_decoded hfinite⟩

end Package

end SyntheticTables
