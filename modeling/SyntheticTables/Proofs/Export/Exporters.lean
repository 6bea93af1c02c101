/-
  Both forms of an export carry the same package.

  A table file and the inline rows are two views of the same rows: a record has the cells in the order
  of the columns, a row under their names in ascending order.  In a checked package each row has
  exactly the names of the columns, so pairing a record with the header gives the row
  (`Csv.rowOf_cells`).  The two descriptors differ in where the rows of a resource are found, and
  agree under every other name (`Json.SameApart`).
-/
import SyntheticTables.Export.Files
import SyntheticTables.Proofs.Export.Csv
import SyntheticTables.Proofs.Export.Faithful

namespace SyntheticTables

open Json (decoded)

/-! ## Rows and records -/

/-- A record under the names of a header. -/
def Csv.rowOf (names record : List String) : Json :=
  .obj (Json.sortMembers ((names.zip record).map fun c => (c.1, .str c.2)))

/-- The cells of a row are found under their names. -/
theorem Row.map_names (r : Row) :
    (r.names.map fun n => (n, (r.get? n).getD "")) = r.cells := by
  have hget : ∀ c ∈ r.cells, (c.1, (r.get? c.1).getD "") = c := by
    intro c hc
    have hfind : r.cells.find? (·.1 = c.1) = some c :=
      (Json.find?_eq_some_iff r.ascending.distinct).mpr ⟨hc, rfl⟩
    rw [get?, hfind]
    rfl
  rw [names, List.map_map]
  exact (List.map_congr_left hget).trans (List.map_id _)

/-- A record of a row, read under the header, is the row as it stands in the inline document, if the
    names of the columns are those of the row.  The header is in the order of the columns and the
    row in the order of the names, so the pairs are the same up to order, and sorting removes the
    difference. -/
theorem Csv.rowOf_cells {names : List String} {r : Row} (hdistinct : names.Nodup)
    (hnames : ∀ n, n ∈ r.names ↔ n ∈ names) : rowOf names (cells names r) = r.toJson := by
  have hperm : names.Perm r.names :=
    (List.perm_ext_iff_of_nodup hdistinct r.ascending.distinct).mpr fun n => (hnames n).symm
  -- the record pairs each name with its cell, so it is the row in another order
  have hcells : (names.zip (cells names r)).Perm r.cells := by
    have hpairs := hperm.map fun n => (n, (r.get? n).getD "")
    rw [r.map_names] at hpairs
    have hzip : (names.map id).zip (cells names r) = names.map fun n => (n, (r.get? n).getD "") :=
      List.zip_map'
    rw [List.map_id] at hzip
    rwa [hzip]
  have hascending : Ascending (r.cells.map fun c => (c.1, Json.str c.2)) :=
    List.pairwise_map.mpr r.ascending
  exact congrArg Json.obj (Json.sortMembers_eq_of_perm (hcells.map _) hascending)

/-! ## Places in the decoded descriptors -/

namespace Package

/-- A table of the decoded document is the decoded document of the table. -/
theorem itemAt?_decoded (p : Package) (layout : Layout) (i : Nat) :
    (p.descriptor layout).decoded.itemAt? "resources" i
      = p.resources[i]?.map fun r => (r.descriptor layout i).decoded := by
  have hresources : (p.descriptor layout).member? "resources"
      = some (.arr (resourceDescriptors layout 0 p.resources)) := by
    simp [descriptor]
  rw [Json.itemAt?, p.member?_decoded, hresources]
  simp [getElem?_resourceDescriptors, Function.comp_def]

/-- A row of the decoded inline document is that of the package: rows are kept in the order of their
    names, which decoding leaves as it is. -/
theorem rowAt?_decoded (p : Package) (i j : Nat) :
    (p.descriptor .inline).decoded.rowAt? i j
      = (p.resources[i]?.bind fun r => r.rows[j]?).map Row.toJson := by
  have hdata : ∀ r : TableResource, (r.descriptor .inline i).decoded.itemAt? "data" j
      = r.rows[j]?.map Row.toJson := by
    intro r
    have hrows : (r.descriptor .inline i).member? "data" = some (.arr (r.rows.map Row.toJson)) := by
      simp [TableResource.descriptor, TableResource.location]
    rw [Json.itemAt?, r.member?_decoded, hrows]
    simp [Function.comp_def, Row.toJson_decoded]
  rw [Json.rowAt?, p.itemAt?_decoded]
  cases p.resources[i]? with
  | none => rfl
  | some r => exact hdata r

end Package

/-! ## What the descriptors have in common -/

/-- Two documents have the same members apart from some. -/
def Json.SameApart (names : List String) (j k : Json) : Prop :=
  ∀ name, name ∉ names → j.member? name = k.member? name

/-- Where the rows are found is all that depends on the form of an export. -/
theorem TableResource.sameApart (r : TableResource) (layout layout' : Layout) (place : Nat) :
    Json.SameApart ["path", "format", "mediatype", "data"] (r.descriptor layout place).decoded
      (r.descriptor layout' place).decoded := by
  intro name hname
  rw [r.member?_decoded, r.member?_decoded]
  unfold descriptor
  simp only [Json.member?_append, (r.named_location layout place).member?_eq_none hname,
    (r.named_location layout' place).member?_eq_none hname]

theorem Package.sameApart (p : Package) (layout layout' : Layout) :
    Json.SameApart ["resources"] (p.descriptor layout).decoded (p.descriptor layout').decoded := by
  intro name hname
  have hresources : "resources" ≠ name := fun h => hname (by simp [h])
  rw [p.member?_decoded, p.member?_decoded]
  unfold descriptor
  simp only [Json.member?_append, Json.member?_cons, if_neg hresources]

/-! ## Exports -/

/-- The file at a place is that of the resource at the same place, named by it. -/
theorem getElem?_tableFiles (rs : List TableResource) (place i : Nat) :
    (tableFiles place rs)[i]?
      = rs[i]?.map fun r => ⟨resourceFile (place + i) r, Csv.ofResource r⟩ := by
  induction rs generalizing place i with
  | nil => rfl
  | cons r rest ih =>
    cases i with
    | zero => rfl
    | succ i =>
      rw [tableFiles, List.getElem?_cons_succ, List.getElem?_cons_succ, ih, Nat.add_right_comm,
        Nat.add_assoc]

/-- A text holds a header and below it, record by record, so many rows of a document. -/
def Csv.Carries (names : List String) (count : Nat) (row? : Nat → Option Json) (text : String) :
    Prop :=
  ∀ keepBlank, ∃ records, read keepBlank text = some (names :: records) ∧ records.length = count ∧
    (∀ record ∈ records, record.length = names.length) ∧
    ∀ j, row? j = records[j]?.map (rowOf names)

/-- The file of a resource with columns holds its rows: below the header as many records as there
    are rows, all as long as the header, and each is its row.  A table without columns would give
    blank lines only. -/
theorem TableResource.carries {r : TableResource} (h : r.Valid) (hfields : r.schema.fields ≠ []) :
    Csv.Carries r.schema.fieldNames r.schema.rowCount.toNat
      (fun j => r.rows[j]?.map Row.toJson) (Csv.ofResource r) := by
  intro keepBlank
  have hnames : r.schema.fieldNames ≠ [] := by simpa [TableSchema.fieldNames] using hfields
  refine ⟨r.rows.map (Csv.cells r.schema.fieldNames), Csv.read_table keepBlank hnames r.rows,
    ?_, ?_, ?_⟩
  · rw [List.length_map, h.count]
  · intro record hrecord
    obtain ⟨row, -, rfl⟩ := List.mem_map.mp hrecord
    exact List.length_map _
  · intro j
    show r.rows[j]?.map Row.toJson = _
    rw [List.getElem?_map, Option.map_map]
    cases hrow : r.rows[j]? with
    | none => rfl
    | some row =>
      have hvalid := h.rows row (List.mem_of_getElem? hrow)
      exact congrArg some (Csv.rowOf_cells h.schema.distinct hvalid).symm

namespace Package

/-- A checked package is exported in either form: its descriptor is the one of that form, and table
    files are written only for the separate one. -/
theorem export_of_check {p : Package} (hp : p.check = .ok ()) (format : ExportFormat) :
    ∃ e, p.export format = .ok e ∧
      e.descriptor = ⟨descriptorFile, descriptorText (p.descriptor format.layout)⟩ ∧
      (format = .csv → e.tables = tableFiles 0 p.resources) := by
  unfold Package.export
  rw [hp]
  refine ⟨_, rfl, rfl, ?_⟩
  rintro rfl
  rfl

/-- A checked package is exported in both forms.  Each resource has a table file, whose name stands in
    the one descriptor and whose records are the rows in the other; apart from where the rows are
    found the descriptors are the same. -/
theorem exports_agree {p : Package} (hp : p.check = .ok ()) :
    ∃ inline csv, p.export .json = .ok inline ∧ p.export .csv = .ok csv ∧
      inline.descriptor = ⟨descriptorFile, descriptorText (p.descriptor .inline)⟩ ∧
      csv.descriptor = ⟨descriptorFile, descriptorText (p.descriptor .csv)⟩ ∧
      (∀ i r, p.resources[i]? = some r → ∃ file, csv.tables[i]? = some file ∧
        ((p.descriptor .csv).decoded.itemAt? "resources" i).bind (Json.member? "path")
          = some (.str file.name) ∧
        (r.schema.fields ≠ [] → Csv.Carries r.schema.fieldNames r.schema.rowCount.toNat
          (fun j => (p.descriptor .inline).decoded.rowAt? i j) file.text)) ∧
      Json.SameApart ["resources"] (p.descriptor .csv).decoded (p.descriptor .inline).decoded ∧
      ∀ i, Option.Rel (Json.SameApart ["path", "format", "mediatype", "data"])
        ((p.descriptor .csv).decoded.itemAt? "resources" i)
        ((p.descriptor .inline).decoded.itemAt? "resources" i) := by
  obtain ⟨inline, hinline, hdescriptor, -⟩ := export_of_check hp .json
  obtain ⟨csv, hcsv, hdescriptor', htables⟩ := export_of_check hp .csv
  refine ⟨inline, csv, hinline, hcsv, hdescriptor, hdescriptor', ?_, p.sameApart .csv .inline, ?_⟩
  · intro i r hr
    refine ⟨⟨resourceFile i r, Csv.ofResource r⟩, ?_, ?_, ?_⟩
    · rw [htables rfl, getElem?_tableFiles, hr, Nat.zero_add]
      rfl
    · rw [p.itemAt?_decoded, hr, Option.map_some, Option.bind_some, r.member?_decoded]
      simp [TableResource.descriptor, TableResource.location, decoded]
    · intro hfields
      have hvalid : r.Valid := checkResources_eq_ok_iff.mp hp r (List.mem_of_getElem? hr)
      -- the rows that stand in the other descriptor are those the file was made of
      have hrows : (fun j => (p.descriptor .inline).decoded.rowAt? i j)
          = fun j => r.rows[j]?.map Row.toJson := by
        funext j
        rw [p.rowAt?_decoded, hr]
        rfl
      rw [hrows]
      exact TableResource.carries hvalid hfields
  · intro i
    rw [p.itemAt?_decoded, p.itemAt?_decoded]
    cases p.resources[i]? with
    | none => exact .none
    | some r => exact .some (r.sameApart .csv .inline i)

/-- Text that has to be quoted, and a single column with an empty cell. -/
def quoting : Package where
  name := "p"
  resources := [
    { name := "r,1"
      schema := {
        fields := [⟨{ name := "b" }, .string {}⟩, ⟨{ name := "a\"" }, .string {}⟩]
        rowCount := 1 }
      rows := [.ofList [("a\"", "x,\r\n"), ("b", "")]] },
    { name := "s"
      schema := {
        fields := [⟨{ name := "c" }, .number { maximum := some (0.0 / 0.0) }⟩]
        rowCount := 2 }
      rows := [.ofList [("c", "")], .ofList [("c", "1")]] }]

/-- Two tables: one has the columns `b` and `a"` and a row with an empty text and a text of a comma
    and a line break, and the other has one column `c`, whose first cell is empty.  Both are read
    back from their files, although the one needs quotes in its header and its row, and the other
    has a record that would be a blank line. -/
theorem exports_agree_quoting : quoting.check = .ok () ∧
    ∃ csv first second, quoting.export .csv = .ok csv ∧
      csv.tables[0]? = some first ∧ csv.tables[1]? = some second ∧
      Csv.Carries ["b", "a\""] 1 ((quoting.descriptor .inline).decoded.rowAt? 0) first.text ∧
      Csv.Carries ["c"] 2 ((quoting.descriptor .inline).decoded.rowAt? 1) second.text := by
  have hcheck : quoting.check = .ok () := by decide +kernel
  obtain ⟨inline, csv, -, hcsv, -, -, htables, -, -⟩ := exports_agree hcheck
  obtain ⟨first, hfirst, -, hcarries⟩ := htables 0 _ rfl
  obtain ⟨second, hsecond, -, hcarries'⟩ := htables 1 _ rfl
  exact ⟨hcheck, csv, first, second, hcsv, hfirst, hsecond, hcarries nofun, hcarries' nofun⟩

end Package

end SyntheticTables
