/-
  Exported cells agree with the exported constraints of their columns.

  The statement speaks of the document alone: where a row, a column and a cell stand in it, and what
  the constraints beside the column say (`Json.Agrees`).  What connects it to generation is
  `FieldType.Admits`: a cell that its column admits agrees with the document of the column, whatever
  attributes are present.
-/
import SyntheticTables.Proofs.Run
import SyntheticTables.Export.Descriptor
import SyntheticTables.Proofs.Json.Member

namespace SyntheticTables

/-! ## Places in a document -/

namespace Json

/-- The item at a place of the list that stands under a name. -/
def itemAt? (name : String) (place : Nat) (j : Json) : Option Json :=
  match j.member? name with
  | some (.arr items) => items[place]?
  | _ => none

/-- A row of the document of a package: that at a place `j` in the table at a place `i`. -/
def rowAt? (i j : Nat) (package : Json) : Option Json :=
  (package.itemAt? "resources" i).bind (itemAt? "data" j)

/-- A column of the document of a package: that at a place `k` in the table at a place `i`. -/
def columnAt? (i k : Nat) (package : Json) : Option Json :=
  ((package.itemAt? "resources" i).bind (member? "schema")).bind (itemAt? "fields" k)

/-- A constraint in the document of a column. -/
def constraint? (name : String) (column : Json) : Option Json :=
  (column.member? "constraints").bind (member? name)

/-- A cell keeps the constraints that stand in the document of its column. -/
def Agrees (column : Json) (cell : String) : FieldType → Prop
  | .integer _ => ∃ i, Text.int64? cell = some i ∧
      (∀ m, column.constraint? "minimum" = some m → ∃ low, m = .ofInt64 low ∧ low ≤ i) ∧
      ∀ m, column.constraint? "maximum" = some m → ∃ high, m = .ofInt64 high ∧ i ≤ high
  | .number _ => True
  | .string _ =>
      (∀ m, column.constraint? "minLength" = some m →
        ∃ low, m = .ofUInt64 low ∧ low.toNat ≤ cell.length) ∧
      ∀ m, column.constraint? "maxLength" = some m →
        ∃ high, m = .ofUInt64 high ∧ cell.length ≤ high.toNat
  | .enumInteger _ =>
      (∃ levels i, column.constraint? "enum" = some (.arr levels) ∧ .ofInt64 i ∈ levels ∧
        cell = toString i) ∨
      ∃ tokens, column.member? "missingValues" = some (.arr tokens) ∧ .str cell ∈ tokens
  | .enumString _ =>
      ∃ levels, column.constraint? "enum" = some (.arr levels) ∧ .str cell ∈ levels

end Json

/-! ## Columns -/

/-- A constraint in the document of a column is one of the column's own list.  The document has no
    constraints at all when the list is empty, and then nothing is found on either side. -/
theorem Field.constraint?_descriptor (f : Field) (name : String) :
    f.descriptor.constraint? name = (Json.obj f.type.constraints).member? name := by
  have hcategories : (Json.obj f.type.categories).member? "constraints" = none := by
    cases f.type <;> simp [FieldType.categories]
  have hconstraints : (Json.obj (constraintsMember f.type.constraints)).member? "constraints"
      = if f.type.constraints = [] then none else some (.obj f.type.constraints) := by
    unfold constraintsMember
    cases f.type.constraints <;> simp
  unfold Json.constraint? Field.descriptor
  simp only [Json.member?_append, Json.member?_cons, Json.member?_nil, Json.member?_optional,
    hcategories, hconstraints]
  by_cases h : f.type.constraints = [] <;> simp [h]

/-- The missing values of a column stand in its document as they are, or not at all if it has none
    of its own. -/
theorem Field.missingValues_descriptor (f : Field) :
    f.descriptor.member? "missingValues" = f.type.missingValues.map Json.ofStrings := by
  have hcategories : (Json.obj f.type.categories).member? "missingValues" = none := by
    cases f.type <;> simp [FieldType.categories]
  have hconstraints :
      (Json.obj (constraintsMember f.type.constraints)).member? "missingValues" = none := by
    unfold constraintsMember
    cases f.type.constraints <;> simp
  unfold Field.descriptor
  simp [hcategories, hconstraints]

/-- Every column's document says the column's name; rows are looked up by it. -/
theorem Field.name_descriptor (f : Field) : f.descriptor.member? "name" = some (.str f.name) := by
  simp [Field.descriptor, Field.name]

/-- A constraint of its own is not hidden by the attributes that all columns have. -/
theorem FieldType.member?_constraints (t : FieldType) {name : String} (hrequired : "required" ≠ name)
    (hunique : "unique" ≠ name) :
    (Json.obj t.constraints).member? name = (Json.obj t.ownConstraints).member? name := by
  simp [FieldType.constraints, hrequired, hunique]

/-- What holds of a bound holds of its encoding. -/
theorem exists_of_encoded {α : Type} {encode : α → Json} {o : Option α} {P : α → Prop} {m : Json}
    (h : ∀ a ∈ o, P a) (hm : o.map encode = some m) : ∃ a, m = encode a ∧ P a := by
  obtain ⟨a, ha, rfl⟩ := Option.map_eq_some_iff.mp hm
  exact ⟨a, rfl, h a ha⟩

/-- What a column admits agrees with its document.  The constraints of a document are encodings of
    the bounds or levels of the column, present exactly when these are, so the conditions on a cell
    carry over one by one. -/
theorem Field.agrees_of_admits {f : Field} {cell : String} (h : f.type.Admits cell) :
    f.descriptor.Agrees cell f.type := by
  have hown : ∀ name, "required" ≠ name → "unique" ≠ name →
      f.descriptor.constraint? name = (Json.obj f.type.ownConstraints).member? name :=
    fun name hr hu => (f.constraint?_descriptor name).trans (f.type.member?_constraints hr hu)
  have hmissing := f.missingValues_descriptor
  -- the attributes of a kind stand under names that no other attribute of a column has
  cases htype : f.type with
  | number t => trivial
  | integer t =>
    rw [htype] at h hown
    obtain ⟨i, hi, hmin, hmax⟩ := h
    refine ⟨i, hi, fun m hm => exists_of_encoded hmin ?_, fun m hm => exists_of_encoded hmax ?_⟩
    · rw [← hm, hown "minimum" (by decide) (by decide)]
      simp [FieldType.ownConstraints]
    · rw [← hm, hown "maximum" (by decide) (by decide)]
      simp [FieldType.ownConstraints]
  | string t =>
    rw [htype] at h hown
    refine ⟨fun m hm => exists_of_encoded h.1 ?_, fun m hm => exists_of_encoded h.2 ?_⟩
    · rw [← hm, hown "minLength" (by decide) (by decide)]
      simp [FieldType.ownConstraints]
    · rw [← hm, hown "maxLength" (by decide) (by decide)]
      simp [FieldType.ownConstraints]
  | enumInteger t =>
    rw [htype] at h hown hmissing
    rcases h with ⟨i, hi, hcell⟩ | ⟨tokens, htokens, hcell⟩
    · refine .inl ⟨(levelIntegers t.levels).map .ofInt64, i, ?_, ?_, hcell⟩
      · rw [hown "enum" (by decide) (by decide)]
        simp [FieldType.ownConstraints]
      · obtain ⟨l, hl, hvalue⟩ := List.mem_map.mp hi
        exact List.mem_map_of_mem (List.mem_filterMap.mpr ⟨l, hl, by rw [hvalue]⟩)
    · refine .inr ⟨tokens.map .str, ?_, List.mem_map_of_mem hcell⟩
      rw [hmissing, FieldType.missingValues, htokens]
      rfl
  | enumString t =>
    rw [htype] at h hown
    refine ⟨t.levels.map .str, ?_, List.mem_map_of_mem h⟩
    rw [hown "enum" (by decide) (by decide)]
    simp [FieldType.ownConstraints, Json.ofStrings]

/-! ## Rows -/

/-- A cell of the document of a row is the cell of the row, as a text. -/
theorem Row.member?_toJson (r : Row) (name : String) :
    r.toJson.member? name = (r.get? name).map .str := by
  show (List.find? _ (r.cells.map fun c => (c.1, Json.str c.2))).map _ = _
  rw [List.find?_map, Row.get?, Option.map_map, Option.map_map]
  rfl

/-! ## Packages -/

/-- The document at a place is that of the resource at the same place, which is told the place
    because the name of its table file begins with it. -/
theorem getElem?_resourceDescriptors (layout : Layout) (rs : List TableResource) (place i : Nat) :
    (resourceDescriptors layout place rs)[i]?
      = rs[i]?.map fun r => r.descriptor layout (place + i) := by
  induction rs generalizing place i with
  | nil => rfl
  | cons r rest ih =>
    cases i with
    | zero => rfl
    | succ i =>
      rw [resourceDescriptors, List.getElem?_cons_succ, List.getElem?_cons_succ, ih,
        Nat.add_right_comm, Nat.add_assoc]

/-- The tables of the inline document are those of the package, in order. -/
theorem Package.itemAt?_resources (p : Package) (i : Nat) :
    (p.descriptor .inline).itemAt? "resources" i
      = p.resources[i]?.map fun t => t.descriptor .inline i := by
  simp [Json.itemAt?, Package.descriptor, getElem?_resourceDescriptors]

/-- The rows of the document are those of the package, each in its place. -/
theorem Package.rowAt?_descriptor (p : Package) (i j : Nat) :
    (p.descriptor .inline).rowAt? i j
      = (p.resources[i]?.bind fun t => t.rows[j]?).map Row.toJson := by
  have hdata : ∀ t : TableResource, (t.descriptor .inline i).itemAt? "data" j
      = t.rows[j]?.map Row.toJson := by
    intro t
    simp [Json.itemAt?, TableResource.descriptor, TableResource.location]
  rw [Json.rowAt?, p.itemAt?_resources]
  cases p.resources[i]? with
  | none => rfl
  | some t => exact hdata t

/-- So are the columns: that at a place of the document is the document of the column at the same
    place of the schema. -/
theorem Package.columnAt?_descriptor (p : Package) (i k : Nat) :
    (p.descriptor .inline).columnAt? i k
      = (p.resources[i]?.bind fun t => t.schema.fields[k]?).map Field.descriptor := by
  have hschema : ∀ t : TableResource,
      (t.descriptor .inline i).member? "schema" = some t.schema.descriptor := by
    intro t
    simp [TableResource.descriptor, TableResource.location]
  have hfields : ∀ s : TableSchema,
      s.descriptor.itemAt? "fields" k = s.fields[k]?.map Field.descriptor := by
    intro s
    simp [Json.itemAt?, TableSchema.descriptor]
  rw [Json.columnAt?, p.itemAt?_resources]
  cases p.resources[i]? with
  | none => rfl
  | some t =>
    rw [Option.map_some, Option.bind_some, hschema, Option.bind_some, hfields]
    rfl

/-- Every row in the document of the package has a cell under the name of every column of its table,
    and the cell agrees with the document of the column. -/
def Package.Agrees (p : Package) : Prop :=
  ∀ (i j k : Nat) (row column : Json), (p.descriptor .inline).rowAt? i j = some row →
    (p.descriptor .inline).columnAt? i k = some column →
    ∃ t f cell, p.resources[i]? = some t ∧ t.schema.fields[k]? = some f ∧
      column.member? "name" = some (.str f.name) ∧ row.member? f.name = some (.str cell) ∧
      column.Agrees cell f.type

/-- A package whose tables are sound agrees with its document.  What soundness says of a row and a
    column is said of the two places in the document where they stand. -/
theorem Package.agrees_of_sound {p : Package} (h : ∀ t ∈ p.resources, t.Sound) : p.Agrees := by
  intro i j k row column hrow hcolumn
  rw [p.rowAt?_descriptor] at hrow
  rw [p.columnAt?_descriptor] at hcolumn
  -- both places are places of the package, in the same table
  obtain ⟨r, hr, rfl⟩ := Option.map_eq_some_iff.mp hrow
  obtain ⟨f, hf, rfl⟩ := Option.map_eq_some_iff.mp hcolumn
  obtain ⟨t, ht, hr⟩ := Option.bind_eq_some_iff.mp hr
  rw [ht, Option.bind_some] at hf
  have hsound := h t (List.mem_of_getElem? ht)
  obtain ⟨cell, hget, hadmits⟩ :=
    (hsound.rows r (List.mem_of_getElem? hr)).cells f (List.mem_of_getElem? hf)
  refine ⟨t, f, cell, ht, hf, f.name_descriptor, ?_, Field.agrees_of_admits hadmits⟩
  rw [Row.member?_toJson, hget]
  rfl

open Draw

namespace Run

/-- The descriptors of all packages that a checked tree gives agree with themselves. -/
theorem draw_agrees (r : Run) (number : Nat) {n : Node} (hn : n.check = .ok ()) :
    Ensures (fun v => ∀ p ∈ v.packages, p.Agrees) (r.draw number n) := by
  intro s v hv p hp
  have hsound := r.draw_sound number (Node.check_eq_ok_iff.mp hn) s v hv
  exact Package.agrees_of_sound fun t ht =>
    hsound.resources t (Value.mem_resources_of_packages hp ht)

/-- The tree of a package with one to three resources, all of them as they are by default, is
    accepted; so in a run with the words "word" and "name" and tokens that are negative integers,
    every package drawn from it agrees with its document. -/
theorem draw_agrees_packageTree : packageTree.check = .ok () ∧
    Ensures (fun v => ∀ p ∈ v.packages, p.Agrees)
      (draw ⟨⟨"en_US", #["word", "name"], by decide, 1000, 0.5⟩, .style .spss⟩ 0 packageTree) :=
  ⟨rfl, draw_agrees _ 0 rfl⟩

end Run

end SyntheticTables
