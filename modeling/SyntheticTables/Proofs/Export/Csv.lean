/-
  Tables are read back from their text.

  `Csv.read` reads comma-separated text by its published grammar: a record ends with a line feed or a
  carriage return and a line feed, a field may stand between quotes, where a doubled quote stands for
  one, and a quote may stand nowhere else.  Readers differ in what a blank line is, a record of one
  empty field or nothing at all; what is proved holds for both, because no line of a table is blank.

  The proof follows the text: the characters of a field leave the reader where a comma or a line feed
  ends the field (`run_field`), so a record is read by induction on its fields and a table by
  induction on its records.
-/
import SyntheticTables.Export.Csv
import SyntheticTables.Proofs.Json.Printer

namespace SyntheticTables.Csv

/-! ## Reading -/

/-- Where a reader is. -/
inductive Place where
  /-- Before a field. -/
  | start
  /-- In a field without quotes. -/
  | plain
  /-- Between quotes. -/
  | quoted
  /-- Behind a quote that closes the field unless another one follows. -/
  | quote
  /-- Behind a carriage return, on a line that was blank up to there or not. -/
  | return (blank : Bool)
  deriving DecidableEq

/-- What has been read. -/
structure Reading where
  records : List (List String)
  /-- The fields of the record that is being read. -/
  fields : List String
  /-- The field that is being read. -/
  text : List Char
  place : Place

namespace Reading

/-- Before a record. -/
def begin (records : List (List String)) : Reading := ⟨records, [], [], .start⟩

/-- One more character of the field. -/
def put (r : Reading) (c : Char) (place : Place) : Reading :=
  { r with text := r.text ++ [c], place := place }

/-- The field is complete and the next one begins. -/
def endField (r : Reading) : Reading :=
  { r with fields := r.fields ++ [String.ofList r.text], text := [], place := .start }

/-- The field and with it the record are complete. -/
def endRecord (r : Reading) : Reading := begin (r.records ++ [r.endField.fields])

/-- Whether nothing stands on the line yet. -/
def blank (r : Reading) : Bool := r.place = .start && r.fields.isEmpty

/-- Ends a line, which is skipped if it is blank and blank lines do not count. -/
def endLine (keepBlank blank : Bool) (r : Reading) : Reading :=
  if blank && !keepBlank then begin r.records else r.endRecord

/-- What ends a field. -/
def close? (keepBlank : Bool) (r : Reading) (c : Char) : Option Reading :=
  if c = ',' then some r.endField
  else if c = '\n' then some (r.endLine keepBlank r.blank)
  else if c = '\r' then some { r with place := .return r.blank }
  else none

/-- Reads a character. -/
def step (keepBlank : Bool) (r : Reading) (c : Char) : Option Reading :=
  match r.place with
  | .start =>
    if c = '"' then some { r with place := .quoted }
    else (r.close? keepBlank c).orElse fun _ => some (r.put c .plain)
  | .plain =>
    if c = '"' then none
    else (r.close? keepBlank c).orElse fun _ => some (r.put c .plain)
  | .quoted => if c = '"' then some { r with place := .quote } else some (r.put c .quoted)
  | .quote => if c = '"' then some (r.put c .quoted) else r.close? keepBlank c
  | .return blank => if c = '\n' then some (r.endLine keepBlank blank) else none

/-- The records, where the text ends; the last line need not be ended. -/
def finish (r : Reading) : Option (List (List String)) :=
  match r.place with
  | .start => some (if r.blank then r.records else r.endRecord.records)
  | .plain | .quote => some r.endRecord.records
  | .quoted | .return _ => none

end Reading

/-- Reads the records of a text; `keepBlank` says whether a blank line is one. -/
def read (keepBlank : Bool) (text : String) : Option (List (List String)) :=
  (text.toList.foldlM (Reading.step keepBlank) (.begin [])).bind Reading.finish

example : read true "a,\"b\"\"\n\"\r\n1,\n" = some [["a", "b\"\n"], ["1", ""]] := by decide

/-! ## Fields -/

namespace Reading

variable {keepBlank : Bool}

/-- Characters behind others are read from where those left the reader. -/
theorem run_append {r r₁ : Reading} {xs : List Char} (ys : List Char)
    (h : xs.foldlM (step keepBlank) r = some r₁) :
    (xs ++ ys).foldlM (step keepBlank) r = ys.foldlM (step keepBlank) r₁ := by
  rw [List.foldlM_append, h]
  rfl

/-- Characters that end nothing are put to the field.  A field that is written without quotes has no
    comma, no quote and no line break, so all of its characters are such. -/
theorem run_plain {field : List Char} (h : needsQuotes field = false) :
    ∀ {r : Reading}, r.place = .plain →
      field.foldlM (step keepBlank) r = some { r with text := r.text ++ field } := by
  induction field with
  | nil =>
    intro r _
    simp
  | cons c rest ih =>
    intro r hr
    rw [needsQuotes, List.any_cons, Bool.or_eq_false_iff] at h
    obtain ⟨hc, hrest⟩ := h
    have hstep : step keepBlank r c = some (r.put c .plain) := by
      simp only [Bool.or_eq_false_iff, decide_eq_false_iff_not] at hc
      simp [step, hr, close?, hc]
    rw [List.foldlM_cons, hstep]
    show rest.foldlM (step keepBlank) (r.put c .plain) = _
    rw [ih hrest rfl]
    simp [put, hr]

/-- Doubled quotes are read as single ones.  By induction on the field: between quotes every other
    character stands for itself, commas and line breaks included. -/
theorem run_doubled (field : List Char) : ∀ {r : Reading}, r.place = .quoted →
    (doubled field).foldlM (step keepBlank) r = some { r with text := r.text ++ field } := by
  induction field with
  | nil =>
    intro r _
    simp [doubled]
  | cons c rest ih =>
    intro r hr
    unfold doubled
    split
    · rename_i hc
      -- the first quote might close the field, the second one shows that it does not
      have hfirst : step keepBlank r '"' = some { r with place := .quote } := by simp [step, hr]
      have hsecond : step keepBlank { r with place := .quote } '"' = some (r.put '"' .quoted) := by
        simp [step, put]
      rw [List.foldlM_cons, hfirst]
      show (('"' :: doubled rest).foldlM (step keepBlank) { r with place := .quote }) = _
      rw [List.foldlM_cons, hsecond]
      show (doubled rest).foldlM (step keepBlank) (r.put '"' .quoted) = _
      rw [ih rfl]
      simp [put, hr, hc]
    · rename_i hc
      have hstep : step keepBlank r c = some (r.put c .quoted) := by simp [step, hr, hc]
      rw [List.foldlM_cons, hstep]
      show (doubled rest).foldlM (step keepBlank) (r.put c .quoted) = _
      rw [ih rfl]
      simp [put, hr]

/-- The characters of a field leave the reader where the field can end: behind its last character,
    behind its closing quote, or still before its first character if it has none. -/
theorem run_field (keepBlank : Bool) (records : List (List String)) (fields : List String)
    (field : List Char) :
    ∃ place, (fieldChars field).foldlM (step keepBlank) ⟨records, fields, [], .start⟩
        = some ⟨records, fields, field, place⟩ ∧
      (place = .plain ∨ place = .quote ∨ place = .start ∧ field = []) := by
  unfold fieldChars
  split
  · refine ⟨.quote, ?_, .inr (.inl rfl)⟩
    have hopen : step keepBlank ⟨records, fields, [], .start⟩ '"'
        = some ⟨records, fields, [], .quoted⟩ := by simp [step]
    have hclose : step keepBlank ⟨records, fields, field, .quoted⟩ '"'
        = some ⟨records, fields, field, .quote⟩ := by simp [step]
    rw [List.cons_append, List.foldlM_cons, hopen]
    show (doubled field ++ ['"']).foldlM (step keepBlank) ⟨records, fields, [], .quoted⟩ = _
    rw [run_append _ (run_doubled field rfl)]
    show (step keepBlank ⟨records, fields, field, .quoted⟩ '"' >>= pure) = _
    rw [hclose]
    rfl
  · rename_i hneeds
    rw [Bool.not_eq_true] at hneeds
    -- a field without quotes stays at its start only when it has no character
    cases field with
    | nil => exact ⟨.start, rfl, .inr (.inr ⟨rfl, rfl⟩)⟩
    | cons c rest =>
      refine ⟨.plain, ?_, .inl rfl⟩
      rw [needsQuotes, List.any_cons, Bool.or_eq_false_iff] at hneeds
      obtain ⟨hc, hrest⟩ := hneeds
      have hfirst : step keepBlank ⟨records, fields, [], .start⟩ c
          = some ⟨records, fields, [c], .plain⟩ := by
        simp only [Bool.or_eq_false_iff, decide_eq_false_iff_not] at hc
        simp [step, close?, put, hc]
      rw [List.foldlM_cons, hfirst]
      exact run_plain hrest rfl

/-- Where a field can end, a comma ends it. -/
theorem step_comma {records : List (List String)} {fields : List String} {field : List Char}
    {place : Place} (h : place = .plain ∨ place = .quote ∨ place = .start ∧ field = []) :
    step keepBlank ⟨records, fields, field, place⟩ ','
      = some ⟨records, fields ++ [String.ofList field], [], .start⟩ := by
  rcases h with rfl | rfl | ⟨rfl, rfl⟩ <;> simp [step, close?, endField]

/-- A line feed ends the record as well, unless the line is blank. -/
theorem step_lineFeed {records : List (List String)} {fields : List String} {field : List Char}
    {place : Place} (h : place = .plain ∨ place = .quote ∨ place = .start ∧ field = [])
    (hblank : place ≠ .start ∨ fields ≠ []) :
    step keepBlank ⟨records, fields, field, place⟩ '\n'
      = some (begin (records ++ [fields ++ [String.ofList field]])) := by
  have hline : (⟨records, fields, field, place⟩ : Reading).blank = false := by
    rcases hblank with hplace | hfields <;> simp [blank, *]
  have hend : close? keepBlank ⟨records, fields, field, place⟩ '\n'
      = some (begin (records ++ [fields ++ [String.ofList field]])) := by
    simp [close?, endLine, hline, endRecord, endField]
  rcases h with rfl | rfl | ⟨rfl, rfl⟩ <;> simp [step, hend]

/-- A record is read field by field.  The induction is on the fields that are left, with those
    before them at hand, because only the line feed at the end tells whether the line was blank. -/
theorem run_fields (records : List (List String)) (rest : List String) :
    ∀ (fields : List String) (f : String), (fields ≠ [] ∨ f ≠ "" ∨ rest ≠ []) →
      (fieldChars f.toList ++ (Json.entries (rest.map field) ++ ['\n'])).foldlM (step keepBlank)
          ⟨records, fields, [], .start⟩
        = some (begin (records ++ [fields ++ f :: rest])) := by
  induction rest with
  | nil =>
    intro fields f h
    obtain ⟨place, hrun, hplace⟩ := run_field keepBlank records fields f.toList
    -- the line is blank only if its one field has no character
    -- the line is blank only if its one field has no character
    have hblank : place ≠ .start ∨ fields ≠ [] := by
      rcases h with hfields | hf | hnil
      · exact .inr hfields
      · refine .inl fun hstart => hf ?_
        rcases hplace with rfl | rfl | ⟨-, hf⟩
        · cases hstart
        · cases hstart
        · exact String.toList_eq_nil_iff.mp hf
      · exact absurd rfl hnil
    rw [run_append _ hrun]
    show (step keepBlank ⟨records, fields, f.toList, place⟩ '\n' >>= pure) = _
    rw [step_lineFeed hplace hblank, String.ofList_toList]
    rfl
  | cons g rest ih =>
    intro fields f _
    obtain ⟨place, hrun, hplace⟩ := run_field keepBlank records fields f.toList
    have hentries : Json.entries ((g :: rest).map field)
        = ',' :: (fieldChars g.toList ++ Json.entries (rest.map field)) := by
      simp [Json.entries, field]
    rw [run_append _ hrun, hentries, List.cons_append, List.foldlM_cons, step_comma hplace,
      String.ofList_toList, List.append_assoc]
    have hfields : fields ++ [f] ≠ [] := by simp
    show (fieldChars g.toList ++ (Json.entries (rest.map field) ++ ['\n'])).foldlM (step keepBlank)
      ⟨records, fields ++ [f], [], .start⟩ = _
    rw [ih (fields ++ [f]) g (.inl hfields), List.append_assoc]
    rfl

/-- The line of a record gives the record, also where it had to be kept from being blank: a single
    field without a character is written as two quotes. -/
theorem run_record (records : List (List String)) {fields : List String} (h : fields ≠ []) :
    (record fields).toList.foldlM (step keepBlank) (begin records)
      = some (begin (records ++ [fields])) := by
  cases fields with
  | nil => exact absurd rfl h
  | cons f rest =>
    have hentries : ',' :: (",".intercalate ((f :: rest).map field)).toList
        = ',' :: (fieldChars f.toList ++ Json.entries (rest.map field)) := by
      rw [List.map_cons, Json.toList_intercalate]
      simp [Json.entries, field]
    have hline := (List.cons.inj hentries).2
    by_cases hempty : ",".intercalate ((f :: rest).map field) = ""
    · -- a single field without a character
      obtain ⟨hf, hrest⟩ :=
        List.append_eq_nil_iff.mp (hline.symm.trans (congrArg String.toList hempty))
      obtain rfl : f = "" := by
        unfold fieldChars at hf
        split at hf
        · cases hf
        · exact String.toList_eq_nil_iff.mp hf
      obtain rfl : rest = [] :=
        List.eq_nil_iff_forall_not_mem.mpr (by simpa [Json.entries] using hrest)
      rfl
    · have hrecord : record (f :: rest) = ",".intercalate ((f :: rest).map field) ++ "\n" := by
        simp only [record, hempty, if_false]
      rw [hrecord, String.toList_append, hline, List.append_assoc]
      -- the line is not empty, so there is a character or a second field
      refine run_fields records rest [] f ?_
      rw [or_iff_right (by simp)]
      refine Classical.or_iff_not_imp_left.mpr fun hf hrest => hempty ?_
      rw [Classical.not_not] at hf
      rw [hf, hrest]
      rfl

/-- Record after record is read, by induction on the records; each line leaves the reader before the
    next one. -/
theorem run_records (rows : List (List String)) (h : ∀ row ∈ rows, row ≠ []) :
    ∀ records, (String.join (rows.map record)).toList.foldlM (step keepBlank) (begin records)
      = some (begin (records ++ rows)) := by
  induction rows with
  | nil =>
    intro records
    rw [List.append_nil]
    rfl
  | cons row rest ih =>
    intro records
    obtain ⟨hrow, hrest⟩ := List.forall_mem_cons.mp h
    rw [List.map_cons, String.join_cons, String.toList_append, run_append _ (run_record records hrow),
      ih hrest, List.append_assoc]
    rfl

end Reading

/-! ## Tables -/

/-- The cells of a row in the order of the columns. -/
def cells (names : List String) (r : Row) : List String := names.map fun n => (r.get? n).getD ""

/-- A table with columns is read as its names and its rows, whatever stands in them and whatever a
    blank line is taken for. -/
theorem read_table (keepBlank : Bool) {names : List String} (h : names ≠ []) (rows : List Row) :
    read keepBlank (table names rows) = some (names :: rows.map (cells names)) := by
  have htable : table names rows = String.join ((names :: rows.map (cells names)).map record) := by
    rw [table, List.map_cons, List.map_map]
    rfl
  have hrecords : ∀ row ∈ names :: rows.map (cells names), row ≠ [] := by
    intro row hrow
    rcases List.mem_cons.mp hrow with rfl | hrow
    · exact h
    · obtain ⟨r, -, rfl⟩ := List.mem_map.mp hrow
      simpa [cells] using h
  rw [read, htable, Reading.run_records _ hrecords]
  rfl

end SyntheticTables.Csv
