/-
  The inline descriptor loses nothing.

  Every part of a package is found again in its descriptor.  A column shows its kind by its type name
  together with whether it has categories; its constraints stand under names of their own and leave no
  trace when there are none; a level shows whether it has a label by being an object.  How many rows
  there are is not written, but a checked package has as many as it declares.

  Descriptors are compared as decoded documents, up to a relation `R` on floats, and so are packages
  (`Package.Alike`): the bounds of number columns are the only floats in either.
-/
import SyntheticTables.Export.Descriptor
import SyntheticTables.Proofs.Json.Alike
import SyntheticTables.Proofs.Table.RoundTrip
import SyntheticTables.Proofs.Table.Validity
import SyntheticTables.Proofs.Export.Agreement

namespace SyntheticTables

open Json (Reveals decoded)

variable {R : Float → Float → Prop}

/-! ## Packages that differ in their floats only -/

/-- Two number types that differ in their bounds at most, and there only by floats that `R` relates:
    equality, or the comparison by which zero is negative zero. -/
structure NumberType.Alike (R : Float → Float → Prop) (t t' : NumberType) : Prop where
  required : t.required = t'.required
  unique : t.unique = t'.unique
  minimum : Option.Rel R t.minimum t'.minimum
  maximum : Option.Rel R t.maximum t'.maximum
  missingValues : t.missingValues = t'.missingValues

/-- Types of one kind.  Only number types have floats in them, so all others are the same. -/
inductive FieldType.Alike (R : Float → Float → Prop) : FieldType → FieldType → Prop
  | integer (t : IntegerType) : Alike R (.integer t) (.integer t)
  | enumInteger (t : EnumIntegerType) : Alike R (.enumInteger t) (.enumInteger t)
  | number {t t' : NumberType} (h : t.Alike R t') : Alike R (.number t) (.number t')
  | string (t : StringType) : Alike R (.string t) (.string t)
  | enumString (t : EnumStringType) : Alike R (.enumString t) (.enumString t)

/-- Columns of one name, title and description, and types that are alike. -/
structure Field.Alike (R : Float → Float → Prop) (f f' : Field) : Prop where
  info : f.info = f'.info
  type : f.type.Alike R f'.type

/-- Schemas whose columns are alike one by one, with the same missing values and the same number of
    rows. -/
structure TableSchema.Alike (R : Float → Float → Prop) (s s' : TableSchema) : Prop where
  fields : List.Forall₂ (Field.Alike R) s.fields s'.fields
  missingValues : s.missingValues = s'.missingValues
  rowCount : s.rowCount = s'.rowCount

/-- Tables whose schemas are alike and whose rows are the same; cells are texts. -/
structure TableResource.Alike (R : Float → Float → Prop) (r r' : TableResource) : Prop where
  name : r.name = r'.name
  description : r.description = r'.description
  schema : r.schema.Alike R r'.schema
  rows : r.rows = r'.rows

/-- Packages whose resources are alike one by one. -/
structure Package.Alike (R : Float → Float → Prop) (p p' : Package) : Prop where
  name : p.name = p'.name
  description : p.description = p'.description
  resources : List.Forall₂ (TableResource.Alike R) p.resources p'.resources

/-! ## Levels and rows -/

/-- The integer 3 and the text of it are two values: the one is a number in the document and the
    other is a text. -/
theorem LevelValue.reveals_toJson : Reveals R LevelValue.toJson Eq := by
  intro v v' h
  cases v with
  | int i =>
    cases v' with
    | int j => rw [Json.reveals_ofInt64 h]
    | text t =>
      rw [toJson, Json.decoded_ofInt64] at h
      cases h
  | text s =>
    cases v' with
    | int j =>
      rw [toJson, toJson, Json.decoded_ofInt64] at h
      cases h
    | text t => rw [Json.reveals_str h]

/-- A value is no object. -/
theorem LevelValue.member?_toJson (v : LevelValue) (name : String) :
    v.toJson.decoded.member? name = none := by
  cases v with
  | int i =>
    rw [toJson, Json.decoded_ofInt64]
    rfl
  | text s => rfl

/-- A level with a label is an object, one without is its value.  No value is an object, so whether
    there is a label is seen from the form, and then value and label from the two members. -/
theorem Level.reveals_category : Reveals R Level.category Eq := by
  have hlabelled : ∀ (v : LevelValue) (text name : String),
      (category ⟨v, some text⟩).decoded.member? name
        = ((category ⟨v, some text⟩).member? name).map decoded := by
    intro v text
    have hdistinct : DistinctNames [("value", v.toJson), ("label", .str text)] := by
      simp [DistinctNames]
    exact Json.member?_decoded hdistinct
  rintro ⟨v, label⟩ ⟨v', label'⟩ h
  -- a bare value has no member, so looking up the value tells the two forms apart
  have hmember := h.member?
  cases label with
  | none =>
    cases label' with
    | none =>
      have hvalue : v = v' := LevelValue.reveals_toJson h
      rw [hvalue]
    | some text' =>
      have hvalue := hmember "value"
      rw [hlabelled, category, v.member?_toJson] at hvalue
      cases hvalue
  | some text =>
    cases label' with
    | none =>
      have hvalue := hmember "value"
      rw [hlabelled, category, category, v'.member?_toJson] at hvalue
      cases hvalue
    | some text' =>
      simp only [hlabelled] at hmember
      have hvalue : v = v' := LevelValue.reveals_toJson.needed (hmember "value")
      have htext : text = text' := Json.reveals_str.needed (hmember "label")
      rw [hvalue, htext]

/-- Decoding leaves a row as it is: its names are in order and all its cells are texts. -/
theorem Row.toJson_decoded (r : Row) : r.toJson.decoded = r.toJson := by
  rw [Json.decoded_eq_sorted _ r.proper_toJson, r.toJson_sorted]

/-- A row is found again in its document, names and cells alike. -/
theorem Row.reveals_toJson : Reveals R Row.toJson Eq := by
  intro r r' h
  rw [r.toJson_decoded, r'.toJson_decoded] at h
  have hsplit : ∀ cells : List (String × String),
      cells = (cells.map (·.1)).zip (cells.map (·.2)) := by
    intro cells
    simp [List.zip_map']
  cases h with
  | obj names values =>
    have hnames : r.cells.map (·.1) = r'.cells.map (·.1) := by
      simpa [Function.comp_def] using names
    have hvalues : r.cells.map (·.2) = r'.cells.map (·.2) := by
      refine Json.reveals_ofStrings (R := R) ?_
      simpa [Json.ofStrings, Function.comp_def, decoded] using Json.Alike.arr values
    exact Row.ext (by rw [hsplit r.cells, hsplit r'.cells, hnames, hvalues])

/-! ## Columns -/

namespace FieldType

/-- Only columns of levels have categories, under one of two names. -/
theorem named_categories (t : FieldType) :
    Json.Named ["categories", "categoriesOrdered"] t.categories := by
  cases t with
  | enumInteger t => exact (Json.named_one _ _).append (Json.named_optional _ _ _)
  | enumString t => exact (Json.named_one _ _).append (Json.named_optional _ _ _)
  | _ => exact Json.named_nil _

/-- No two constraints of a column stand under one name, which is what looking them up by name
    needs.  The three parts of the list are named apart, for each kind. -/
theorem distinct_constraints (t : FieldType) : DistinctNames t.constraints := by
  -- each kind has names of its own beside the two that all kinds share
  have hown : ∃ names, Json.Named names t.ownConstraints ∧
      (["required"] ++ ["unique"] ++ names).Nodup := by
    cases t with
    | integer t =>
      refine ⟨_, (Json.named_optional _ _ _).append (Json.named_optional _ _ _), ?_⟩
      decide
    | number t =>
      refine ⟨_, (Json.named_optional _ _ _).append (Json.named_optional _ _ _), ?_⟩
      decide
    | string t =>
      refine ⟨_, ((Json.named_optional _ _ _).append (Json.named_optional _ _ _)).append
        (Json.named_optional _ _ _), ?_⟩
      decide
    | enumInteger t =>
      refine ⟨_, Json.named_one _ _, ?_⟩
      decide
    | enumString t =>
      refine ⟨_, Json.named_one _ _, ?_⟩
      decide
  obtain ⟨names, hnames, hnodup⟩ := hown
  have hcommon := (Json.named_optional "required" .bool t.required).append
    (Json.named_optional "unique" .bool t.unique)
  exact (hcommon.append hnames).distinct hnodup

end FieldType

/-- Constraints stand under one name, or nowhere when there are none. -/
theorem named_constraintsMember (constraints : List (String × Json)) :
    Json.Named ["constraints"] (constraintsMember constraints) := by
  unfold constraintsMember
  split
  · exact Json.named_nil _
  · exact Json.named_one _ _

/-- What is found under a name is the list of constraints, if that is its name and the list is not
    empty. -/
@[simp] theorem member?_constraintsMember (constraints : List (String × Json)) (name : String) :
    (Json.obj (constraintsMember constraints)).member? name
      = if "constraints" = name ∧ constraints ≠ [] then some (.obj constraints) else none := by
  unfold constraintsMember
  by_cases h : constraints = []
  · simp [h]
  · by_cases hname : "constraints" = name <;> simp [h, hname]

namespace Field

/-- What stands in the decoded document of a column is what stands in the document, decoded: its
    names are distinct, so decoding drops none of its members. -/
theorem member?_decoded (f : Field) (name : String) :
    f.descriptor.decoded.member? name = (f.descriptor.member? name).map decoded := by
  have hinfo := ((Json.named_one "name" (.str f.info.name)).append
    (Json.named_optional "title" .str f.info.title)).append
      (Json.named_optional "description" .str f.info.description)
  have htype := (hinfo.append f.type.named_categories).append
    (Json.named_one "type" (.str f.type.descriptorType))
  have hall := (htype.append (named_constraintsMember f.type.constraints)).append
    (Json.named_optional "missingValues" Json.ofStrings f.type.missingValues)
  exact Json.member?_decoded (hall.distinct (by decide)) name

/-- A title stands in the document of a column if it has one. -/
theorem title_descriptor (f : Field) : f.descriptor.member? "title" = f.info.title.map .str := by
  simp [descriptor, f.type.named_categories.member?_eq_none]

/-- So does a description. -/
theorem description_descriptor (f : Field) :
    f.descriptor.member? "description" = f.info.description.map .str := by
  simp [descriptor, f.type.named_categories.member?_eq_none]

/-- The type name is always there.  Integers and integer levels have the same, and so have texts and
    text levels. -/
theorem type_descriptor (f : Field) :
    f.descriptor.member? "type" = some (.str f.type.descriptorType) := by
  simp [descriptor, f.type.named_categories.member?_eq_none]

/-- The constraints are there unless the list is empty. -/
theorem constraints_descriptor (f : Field) :
    f.descriptor.member? "constraints"
      = if f.type.constraints ≠ [] then some (.obj f.type.constraints) else none := by
  simp [descriptor, f.type.named_categories.member?_eq_none]

/-- The levels stand beside the other attributes. -/
theorem categories_descriptor (f : Field) {name : String}
    (hname : name ∈ ["categories", "categoriesOrdered"]) :
    f.descriptor.member? name = (Json.obj f.type.categories).member? name := by
  simp only [List.mem_cons, List.not_mem_nil, or_false] at hname
  rcases hname with rfl | rfl <;> simp [descriptor]

/-- A constraint of the descriptor is one of the column's kind, also when the member is left out. -/
theorem constraint?_decoded (f : Field) (name : String) :
    f.descriptor.decoded.constraint? name
      = ((Json.obj f.type.constraints).member? name).map decoded := by
  unfold Json.constraint?
  rw [f.member?_decoded, f.constraints_descriptor]
  by_cases h : f.type.constraints = []
  · simp [h]
  · simpa [h] using Json.member?_decoded f.type.distinct_constraints name

end Field

/-- Documents that are alike have constraints that are alike. -/
theorem Json.Alike.constraint? {j k : Json} (h : Json.Alike R j k) (name : String) :
    Option.Rel (Json.Alike R) (j.constraint? name) (k.constraint? name) := by
  have hrel := h.member? "constraints"
  unfold Json.constraint?
  generalize j.member? "constraints" = o at hrel ⊢
  generalize k.member? "constraints" = o' at hrel ⊢
  cases hrel with
  | none => exact .none
  | some h => exact h.member? name

namespace FieldType

/-- Whether a column is required stands among its constraints, whatever its kind. -/
theorem required_constraints (t : FieldType) :
    (Json.obj t.constraints).member? "required" = t.required.map .bool := by
  cases t <;> simp [constraints, ownConstraints]

/-- So does whether it is unique. -/
theorem unique_constraints (t : FieldType) :
    (Json.obj t.constraints).member? "unique" = t.unique.map .bool := by
  cases t <;> simp [constraints, ownConstraints]

/-- What a column has is what its constraints, its categories and its type name show.  The type name
    leaves two kinds to choose from at most, and whether there are categories decides between them;
    the rest is attribute by attribute. -/
theorem alike_of_parts {t t' : FieldType} (ht : t.Finite) (ht' : t'.Finite)
    (htype : t.descriptorType = t'.descriptorType) (hmissing : t.missingValues = t'.missingValues)
    (hcategory : ∀ name, Option.Rel (Json.Alike R)
      (((Json.obj t.categories).member? name).map decoded)
      (((Json.obj t'.categories).member? name).map decoded))
    (hconstraint : ∀ name, Option.Rel (Json.Alike R)
      (((Json.obj t.constraints).member? name).map decoded)
      (((Json.obj t'.constraints).member? name).map decoded)) : t.Alike R t' := by
  have hrequired : t.required = t'.required := by
    have h := hconstraint "required"
    rw [required_constraints, required_constraints] at h
    exact Json.reveals_bool.eq_of_option h
  have hunique : t.unique = t'.unique := by
    have h := hconstraint "unique"
    rw [unique_constraints, unique_constraints] at h
    exact Json.reveals_bool.eq_of_option h
  have hown : ∀ name, "required" ≠ name → "unique" ≠ name → Option.Rel (Json.Alike R)
      (((Json.obj t.ownConstraints).member? name).map decoded)
      (((Json.obj t'.ownConstraints).member? name).map decoded) := by
    intro name hr hu
    rw [← t.member?_constraints hr hu, ← t'.member?_constraints hr hu]
    exact hconstraint name
  -- integers and texts share their type name with levels, but only levels have categories
  have hlevels := hcategory "categories"
  have hordered := hcategory "categoriesOrdered"
  -- a pair of kinds either has the levels that only one of the two can have, or different type
  -- names, or is of one kind and equal part by part
  cases t with
  | integer t =>
    cases t' with
    | integer t' =>
      have hminimum : t.minimum = t'.minimum :=
        Json.reveals_ofInt64.eq_of_option (by simpa [ownConstraints] using hown "minimum")
      have hmaximum : t.maximum = t'.maximum :=
        Json.reveals_ofInt64.eq_of_option (by simpa [ownConstraints] using hown "maximum")
      obtain rfl : t = t' := IntegerType.ext hrequired hunique hminimum hmaximum hmissing
      exact .integer t
    | enumInteger t' => cases hlevels
    | _ => simp [descriptorType] at htype
  | enumInteger t =>
    cases t' with
    | enumInteger t' =>
      have hlevels : t.levels = t'.levels :=
        Level.reveals_category.eq_of_list.needed (by simpa [categories] using hlevels)
      have hordered : t.ordered = t'.ordered :=
        Json.reveals_bool.eq_of_option (by simpa [categories] using hordered)
      obtain rfl : t = t' := EnumIntegerType.ext hlevels hrequired hunique hordered hmissing
      exact .enumInteger t
    | integer t' => cases hlevels
    | _ => simp [descriptorType] at htype
  | number t =>
    cases t' with
    | number t' =>
      have hminimum : Option.Rel R t.minimum t'.minimum :=
        Json.reveals_ofFloat.option_of (by simpa [ownConstraints] using hown "minimum") ht.1 ht'.1
      have hmaximum : Option.Rel R t.maximum t'.maximum :=
        Json.reveals_ofFloat.option_of (by simpa [ownConstraints] using hown "maximum") ht.2 ht'.2
      exact .number ⟨hrequired, hunique, hminimum, hmaximum, hmissing⟩
    | _ => simp [descriptorType] at htype
  | string t =>
    cases t' with
    | string t' =>
      have hminLength : t.minLength = t'.minLength :=
        Json.reveals_ofUInt64.eq_of_option (by simpa [ownConstraints] using hown "minLength")
      have hmaxLength : t.maxLength = t'.maxLength :=
        Json.reveals_ofUInt64.eq_of_option (by simpa [ownConstraints] using hown "maxLength")
      have hpattern : t.pattern = t'.pattern :=
        Json.reveals_str.eq_of_option (by simpa [ownConstraints] using hown "pattern")
      obtain rfl : t = t' :=
        StringType.ext hrequired hunique hminLength hmaxLength hpattern hmissing
      exact .string t
    | enumString t' => cases hlevels
    | _ => simp [descriptorType] at htype
  | enumString t =>
    cases t' with
    | enumString t' =>
      have hlevels : t.levels = t'.levels :=
        Json.reveals_ofStrings.needed (by simpa [categories] using hlevels)
      have hordered : t.ordered = t'.ordered :=
        Json.reveals_bool.eq_of_option (by simpa [categories] using hordered)
      obtain rfl : t = t' := EnumStringType.ext hlevels hrequired hunique hordered hmissing
      exact .enumString t
    | string t' => cases hlevels
    | _ => simp [descriptorType] at htype

end FieldType

/-- A column with finite bounds is found again in its document: its names from the members of that
    name, its type from the three parts that `FieldType.alike_of_parts` asks for. -/
theorem Field.reveals_descriptor :
    Reveals R Field.descriptor fun f f' => f.Finite → f'.Finite → f.Alike R f' := by
  intro f f' h hf hf'
  have hmember := h.member?
  simp only [member?_decoded] at hmember
  have hname : f.info.name = f'.info.name := by
    have h := hmember "name"
    rw [name_descriptor, name_descriptor] at h
    exact Json.reveals_str.needed h
  have htitle : f.info.title = f'.info.title := by
    have h := hmember "title"
    rw [title_descriptor, title_descriptor] at h
    exact Json.reveals_str.eq_of_option h
  have hdescription : f.info.description = f'.info.description := by
    have h := hmember "description"
    rw [description_descriptor, description_descriptor] at h
    exact Json.reveals_str.eq_of_option h
  have htype : f.type.descriptorType = f'.type.descriptorType := by
    have h := hmember "type"
    rw [type_descriptor, type_descriptor] at h
    exact Json.reveals_str.needed h
  have hmissing : f.type.missingValues = f'.type.missingValues := by
    have h := hmember "missingValues"
    rw [missingValues_descriptor, missingValues_descriptor] at h
    exact Json.reveals_ofStrings.eq_of_option h
  -- under the other names there are no categories on either side
  have hcategory : ∀ name, Option.Rel (Json.Alike R)
      (((Json.obj f.type.categories).member? name).map decoded)
      (((Json.obj f'.type.categories).member? name).map decoded) := by
    intro name
    by_cases hlevels : name ∈ ["categories", "categoriesOrdered"]
    · rw [← f.categories_descriptor hlevels, ← f'.categories_descriptor hlevels]
      exact hmember name
    · rw [f.type.named_categories.member?_eq_none hlevels,
        f'.type.named_categories.member?_eq_none hlevels]
      exact .none
  -- a column without constraints has no such member, which compares as an empty one
  have hconstraint : ∀ name, Option.Rel (Json.Alike R)
      (((Json.obj f.type.constraints).member? name).map decoded)
      (((Json.obj f'.type.constraints).member? name).map decoded) := by
    intro name
    rw [← f.constraint?_decoded, ← f'.constraint?_decoded]
    exact h.constraint? name
  exact ⟨FieldMeta.ext hname htitle hdescription,
    FieldType.alike_of_parts hf hf' htype hmissing hcategory hconstraint⟩

/-! ## Tables -/

namespace TableSchema

/-- The names of a schema's document are distinct, too. -/
theorem member?_decoded (s : TableSchema) (name : String) :
    s.descriptor.decoded.member? name = (s.descriptor.member? name).map decoded := by
  have hall := (Json.named_one "fields" (.arr (s.fields.map Field.descriptor))).append
    (Json.named_optional "missingValues" Json.ofStrings s.missingValues)
  exact Json.member?_decoded (hall.distinct (by decide)) name

/-- The number of rows is not among the members. -/
theorem alike_of_descriptor {s s' : TableSchema}
    (h : Json.Alike R s.descriptor.decoded s'.descriptor.decoded) (hs : s.Finite) (hs' : s'.Finite)
    (hcount : s.rowCount = s'.rowCount) : s.Alike R s' := by
  have hmember := h.member?
  simp only [member?_decoded] at hmember
  have hfields : List.Forall₂ (Field.Alike R) s.fields s'.fields :=
    Field.reveals_descriptor.list_of.needed (by simpa [descriptor] using hmember "fields") hs hs'
  have hmissing : s.missingValues = s'.missingValues :=
    Json.reveals_ofStrings.eq_of_option (by simpa [descriptor] using hmember "missingValues")
  exact ⟨hfields, hmissing, hcount⟩

end TableSchema

namespace TableResource

/-- Where the rows are found is said under four names: two of them for inline rows, three for a
    file. -/
theorem named_location (r : TableResource) (layout : Layout) (place : Nat) :
    Json.Named ["path", "format", "mediatype", "data"] (r.location layout place) := by
  cases layout with
  | inline => exact (List.Sublist.refl ["format", "data"]).trans (by decide)
  | csv => exact (List.Sublist.refl ["path", "format", "mediatype"]).trans (by decide)

/-- So are those of a table's document, in either form. -/
theorem member?_decoded (r : TableResource) (layout : Layout) (place : Nat) (name : String) :
    (r.descriptor layout place).decoded.member? name
      = ((r.descriptor layout place).member? name).map decoded := by
  have hinfo := ((Json.named_one "name" (.str r.name)).append
    (Json.named_optional "description" .str r.description)).append
      (Json.named_one "profile" (.str "tabular-data-resource"))
  have hall := (hinfo.append (r.named_location layout place)).append
    (Json.named_one "schema" r.schema.descriptor)
  exact Json.member?_decoded (hall.distinct (by decide)) name

/-- A checked table is found again in its inline document.  The document does not say how many rows
    were asked for, but a checked table has exactly that many. -/
theorem reveals_descriptor (place : Nat) : Reveals R (descriptor .inline place) fun r r' =>
    r.Finite ∧ r.Valid → r'.Finite ∧ r'.Valid → r.Alike R r' := by
  rintro r r' h ⟨hfinite, hvalid⟩ ⟨hfinite', hvalid'⟩
  have hmember := h.member?
  simp only [member?_decoded] at hmember
  have hname : r.name = r'.name :=
    Json.reveals_str.needed (by simpa [descriptor] using hmember "name")
  have hdescription : r.description = r'.description :=
    Json.reveals_str.eq_of_option
      (by simpa [descriptor, location] using hmember "description")
  have hrows : r.rows = r'.rows :=
    Row.reveals_toJson.eq_of_list.needed (by simpa [descriptor, location] using hmember "data")
  -- the rows are counted instead
  have hcount : r.schema.rowCount = r'.schema.rowCount := by
    rw [← UInt64.toNat_inj, ← hvalid.count, ← hvalid'.count, hrows]
  have hschema : Json.Alike R r.schema.descriptor.decoded r'.schema.descriptor.decoded := by
    have h := hmember "schema"
    simp only [descriptor, location, Json.member?_append] at h
    simpa using h
  have hschema := TableSchema.alike_of_descriptor hschema hfinite hfinite' hcount
  exact ⟨hname, hdescription, hschema, hrows⟩

end TableResource

namespace Package

/-- So are those of a package's document. -/
theorem member?_decoded (p : Package) (layout : Layout) (name : String) :
    (p.descriptor layout).decoded.member? name
      = ((p.descriptor layout).member? name).map decoded := by
  have hinfo := (Json.named_one "name" (.str p.name)).append
    (Json.named_optional "description" .str p.description)
  have hall := hinfo.append
    (Json.named_one "resources" (.arr (resourceDescriptors layout 0 p.resources)))
  exact Json.member?_decoded (hall.distinct (by decide)) name

/-- Where a resource stands does not show in its inline descriptor. -/
theorem resourceDescriptors_inline (place : Nat) (rs : List TableResource) :
    resourceDescriptors .inline place rs = rs.map (TableResource.descriptor .inline 0) := by
  induction rs generalizing place with
  | nil => rfl
  | cons r rest ih =>
    rw [resourceDescriptors, ih, List.map_cons]
    rfl

/-- Packages whose inline documents are alike are alike.  Both are checked, so the rows of each
    resource tell how many there are to be. -/
theorem alike_of_descriptor {p q : Package} (hp : p.check = .ok ()) (hq : q.check = .ok ())
    (hpf : p.Finite) (hqf : q.Finite)
    (h : Json.Alike R (p.descriptor .inline).decoded (q.descriptor .inline).decoded) :
    p.Alike R q := by
  have hmember := h.member?
  simp only [member?_decoded] at hmember
  have hname : p.name = q.name :=
    Json.reveals_str.needed (by simpa [descriptor] using hmember "name")
  have hdescription : p.description = q.description :=
    Json.reveals_str.eq_of_option (by simpa [descriptor] using hmember "description")
  have hvalid : ∀ p : Package, p.check = .ok () → p.Finite →
      ∀ r ∈ p.resources, r.Finite ∧ r.Valid := by
    intro p hp hpf r hr
    exact ⟨hpf r hr, checkResources_eq_ok_iff.mp hp r hr⟩
  have hresources : List.Forall₂ (TableResource.Alike R) p.resources q.resources := by
    refine (TableResource.reveals_descriptor 0).list_of.needed ?_ (hvalid p hp hpf) (hvalid q hq hqf)
    have h := hmember "resources"
    simpa [descriptor, resourceDescriptors_inline] using h
  exact ⟨hname, hdescription, hresources⟩

end Package

/-! ## Exactly alike -/

/-- With equality of floats, types that are alike are the same. -/
theorem FieldType.Alike.eq {t t' : FieldType} (h : t.Alike Eq t') : t = t' := by
  cases h with
  | number h =>
    exact congrArg FieldType.number (NumberType.ext h.required h.unique (Json.eq_of_rel h.minimum)
      (Json.eq_of_rel h.maximum) h.missingValues)
  | _ => rfl

/-- So are columns. -/
theorem Field.Alike.eq {f f' : Field} (h : f.Alike Eq f') : f = f' := Field.ext h.info h.type.eq

/-- So are tables, column by column. -/
theorem TableResource.Alike.eq {r r' : TableResource} (h : r.Alike Eq r') : r = r' := by
  have hfields := h.schema.fields.imp fun f f' (hf : Field.Alike Eq f f') => hf.eq
  rw [List.forall₂_eq_eq_eq] at hfields
  exact TableResource.ext h.name h.description
    (TableSchema.ext hfields h.schema.missingValues h.schema.rowCount) h.rows

/-- So are packages, resource by resource. -/
theorem Package.Alike.eq {p q : Package} (h : p.Alike Eq q) : p = q := by
  have hresources := h.resources.imp fun r r' (hr : TableResource.Alike Eq r r') => hr.eq
  rw [List.forall₂_eq_eq_eq] at hresources
  exact Package.ext h.name h.description hresources

namespace Package

/-- Checked packages with finite bounds have the same inline descriptor only if they are the same,
    and descriptors that compare equal only if they compare equal. -/
theorem eq_of_inline {p q : Package} (hp : p.check = .ok ()) (hq : q.check = .ok ())
    (hpf : p.Finite) (hqf : q.Finite) :
    ((p.descriptor .inline).decoded = (q.descriptor .inline).decoded → p = q) ∧
      (Json.Alike (· == ·) (p.descriptor .inline).decoded (q.descriptor .inline).decoded →
        p.Alike (· == ·) q) := by
  constructor
  · intro h
    have halike : Json.Alike Eq (p.descriptor .inline).decoded (q.descriptor .inline).decoded :=
      h ▸ Json.Alike.refl (fun _ => rfl) _
    exact (alike_of_descriptor hp hq hpf hqf halike).eq
  · exact alike_of_descriptor hp hq hpf hqf

/-- A column of one level. -/
def leveled (v : LevelValue) : Package where
  name := "p"
  resources := [{
    name := "r"
    schema := {
      fields := [⟨{ name := "a" }, .enumInteger { levels := [{ value := v }] }⟩]
      rowCount := 1 }
    rows := [.ofList [("a", "3")]] }]

/-- Two packages of one table with one row and one column of integer levels: in the first the level
    is the integer 3, in the second the text "3".  Both are valid, and their documents differ. -/
theorem eq_of_inline_leveled : (leveled (.int 3)).check = .ok () ∧
    (leveled (.text "3")).check = .ok () ∧ (leveled (.int 3)).Finite ∧ (leveled (.text "3")).Finite ∧
    ((leveled (.int 3)).descriptor .inline).decoded
      ≠ ((leveled (.text "3")).descriptor .inline).decoded := by
  have hcheck : ∀ v, (leveled v).check = .ok () := fun v => rfl
  have hfinite : ∀ v, (leveled v).Finite := by
    intro v
    simp [leveled, Finite, TableResource.Finite, TableSchema.Finite, Field.Finite,
      FieldType.Finite]
  refine ⟨hcheck _, hcheck _, hfinite _, hfinite _, fun h => ?_⟩
  have heq := (eq_of_inline (hcheck _) (hcheck _) (hfinite _) (hfinite _)).1 h
  simp [leveled] at heq

end Package

end SyntheticTables
