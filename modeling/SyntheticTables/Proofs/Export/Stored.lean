/-
  What an export leaves in its directory.

  The files are written one after the other.  As no two have one name and every name is that of an
  entry of the directory, a file that was written stays as it is while the others are written
  (`Export.read_of_store`).
-/
import SyntheticTables.Proofs.Export.Exporters
import SyntheticTables.Proofs.Export.FileNames
import SyntheticTables.Proofs.Files.Tree

namespace SyntheticTables

/-! ## Names of an export -/

/-- The table files are those of the resources, each with its place. -/
theorem mem_tableFiles {rs : List TableResource} {place : Nat} {file : OutFile}
    (h : file ∈ tableFiles place rs) : ∃ i r, file.name = resourceFile i r ∧ place ≤ i := by
  induction rs generalizing place with
  | nil => cases h
  | cons r rest ih =>
    rcases List.mem_cons.mp h with rfl | h
    · exact ⟨place, r, rfl, Nat.le_refl place⟩
    · obtain ⟨i, r', hname, hi⟩ := ih h
      exact ⟨i, r', hname, Nat.le_of_succ_le hi⟩

/-- No two table files have one name, because the name tells the place. -/
theorem nodup_names_tableFiles (rs : List TableResource) (place : Nat) :
    ((tableFiles place rs).map (·.name)).Nodup := by
  induction rs generalizing place with
  | nil => exact List.nodup_nil
  | cons r rest ih =>
    refine List.nodup_cons.mpr ⟨?_, ih (place + 1)⟩
    intro hmem
    obtain ⟨file, hfile, hname⟩ := List.mem_map.mp hmem
    obtain ⟨i, r', hi, hle⟩ := mem_tableFiles hfile
    have hplace : i = place := place_of_resourceFile (hi.symm.trans hname)
    omega

namespace Export

/-- Files that can lie in one directory side by side. -/
structure Apart (files : List OutFile) : Prop where
  distinct : (files.map (·.name)).Nodup
  safe : ∀ file ∈ files, IsSafeName file.name

/-- The files of an export can lie side by side, in either form: table files are unlike each other
    and unlike the descriptor, and all names are safe. -/
theorem apart_files {p : Package} {format : ExportFormat} {e : Export}
    (h : p.export format = .ok e) : Apart e.files := by
  have htables : e.tables = [] ∨ e.tables = tableFiles 0 p.resources := by
    obtain ⟨-, he⟩ := seq_eq_ok_iff.mp h
    cases he
    cases format
    · exact Or.inl rfl
    · exact Or.inr rfl
  have hdescriptor : e.descriptor.name = descriptorFile := by
    obtain ⟨-, he⟩ := seq_eq_ok_iff.mp h
    cases he
    rfl
  have hresource : ∀ file ∈ e.tables, ∃ i r, file.name = resourceFile i r := by
    intro file hfile
    rcases htables with heq | heq
    · rw [heq] at hfile
      cases hfile
    · rw [heq] at hfile
      obtain ⟨i, r, hname, -⟩ := mem_tableFiles hfile
      exact ⟨i, r, hname⟩
  constructor
  · rw [files, List.map_append, List.map_singleton, hdescriptor]
    refine List.nodup_append.mpr ⟨?_, List.nodup_singleton _, ?_⟩
    · rcases htables with heq | heq
      · rw [heq]
        exact List.nodup_nil
      · rw [heq]
        exact nodup_names_tableFiles p.resources 0
    -- a name of a table file and that of the descriptor
    · intro name hname other hother
      obtain ⟨file, hfile, rfl⟩ := List.mem_map.mp hname
      obtain ⟨i, r, hi⟩ := hresource file hfile
      rw [List.mem_singleton.mp hother, hi]
      exact resourceFile_ne_descriptorFile i r
  · intro file hfile
    rcases List.mem_append.mp hfile with hfile | hfile
    · obtain ⟨i, r, hi⟩ := hresource file hfile
      rw [hi]
      exact isSafeName_resourceFile i r
    · rw [List.mem_singleton.mp hfile, hdescriptor]
      exact isSafeName_descriptorFile

/-! ## Writing -/

section Writing

variable {base directory : String} {f g : Files}

/-- A file of an export is found with its text. -/
def Holds (base directory : String) (f : Files) (file : OutFile) : Prop :=
  f.read (joinPath base (joinPath directory file.name)) = .ok file.text

/-- One file written. -/
theorem holds_of_write {file : OutFile} (hname : IsSafeName file.name)
    (h : f.write (joinPath base (joinPath directory file.name)) file.text = .ok g) :
    Holds base directory g file ∧ ∀ other, IsSafeName other.name → other.name ≠ file.name →
      Holds base directory f other → Holds base directory g other := by
  have hpath := Files.leadsTo_joinPath hname.toNamesEntry base directory
  constructor
  · exact Files.read_of_write hpath h
  · intro other hother hne hholds
    exact Files.read_of_write_other hpath
      (Files.leadsTo_joinPath hother.toNamesEntry base directory) hne h hholds

/-- A file written as a part of an export. -/
theorem place_eq_ok_iff {file : OutFile} {wrap : FileError → StoreError} :
    ((ExceptT.mk ((Files.systemAt base).write (joinPath directory file.name) file.text)).adapt wrap
        : ExceptT StoreError (StateM Files) Unit) f = (.ok (), g) ↔
      f.write (joinPath base (joinPath directory file.name)) file.text = .ok g := by
  rw [run_adapt_eq_ok_iff]
  show Files.change (·.write (joinPath base (joinPath directory file.name)) file.text) f
    = (.ok (), g) ↔ _
  exact Files.change_eq_ok_iff

/-- Files written one after the other: in the end all of them are found, and so is every other file
    of the directory that was found before.  The second half is what makes the induction on the
    files work. -/
theorem holds_of_writes {files : List OutFile} (hsafe : ∀ file ∈ files, IsSafeName file.name)
    (hdistinct : (files.map (·.name)).Nodup) {wrap : FileError → StoreError}
    (h : (files.forM fun file =>
        (ExceptT.mk ((Files.systemAt base).write (joinPath directory file.name) file.text)).adapt
          wrap : ExceptT StoreError (StateM Files) Unit) f = (.ok (), g)) :
    (∀ file ∈ files, Holds base directory g file) ∧ ∀ other, IsSafeName other.name →
      other.name ∉ files.map (·.name) → Holds base directory f other →
        Holds base directory g other := by
  induction files generalizing f with
  | nil =>
    cases h
    constructor
    · intro file hfile
      cases hfile
    · intro other _ _ hholds
      exact hholds
  | cons file rest ih =>
    rw [List.forM, run_bind_eq_ok_iff] at h
    obtain ⟨_, f₁, hfirst, hrest⟩ := h
    obtain ⟨hwritten, hkept⟩ := holds_of_write (hsafe file List.mem_cons_self)
      (place_eq_ok_iff.mp hfirst)
    -- the first file has none of the later names, so the later writes leave it alone
    obtain ⟨hfresh, hdistinct⟩ := List.nodup_cons.mp hdistinct
    obtain ⟨hothers, hkept'⟩ :=
      ih (fun file hfile => hsafe file (List.mem_cons_of_mem _ hfile)) hdistinct hrest
    constructor
    · intro file' hfile'
      rcases List.mem_cons.mp hfile' with rfl | hfile'
      · exact hkept' _ (hsafe _ List.mem_cons_self) hfresh hwritten
      · exact hothers file' hfile'
    · intro other hother hnew hholds
      rw [List.map_cons, List.mem_cons, not_or] at hnew
      exact hkept' other hother hnew.2 (hkept other hother hnew.1 hholds)

/-- After an export every one of its files is found with its text: the table files are written
    first, and the descriptor, which is written last, has a name of its own. -/
theorem read_of_store {e : Export} (hapart : Apart e.files)
    (h : e.store (Files.systemAt base) directory f = (.ok (), g)) :
    ∀ file ∈ e.files, Holds base directory g file := by
  obtain ⟨_, f₁, -, hwrites⟩ := run_bind_eq_ok_iff.mp h
  obtain ⟨_, f₂, htables, hdescriptor⟩ := run_bind_eq_ok_iff.mp hwrites
  have hdistinct := hapart.distinct
  rw [files, List.map_append, List.nodup_append] at hdistinct
  obtain ⟨hnames, -, hnew⟩ := hdistinct
  have hsafe : ∀ file ∈ e.tables, IsSafeName file.name := by
    intro file hfile
    exact hapart.safe file (List.mem_append_left _ hfile)
  -- the table files first, then the descriptor, which takes the place of none of them
  obtain ⟨hheld, -⟩ := holds_of_writes hsafe hnames htables
  obtain ⟨hwritten, hkept⟩ := holds_of_write
    (hapart.safe e.descriptor (List.mem_append_right _ List.mem_cons_self))
    (place_eq_ok_iff.mp hdescriptor)
  intro file hfile
  rcases List.mem_append.mp hfile with hfile | hfile
  · refine hkept file (hsafe file hfile) ?_ (hheld file hfile)
    exact hnew _ (List.mem_map_of_mem hfile) _ (List.mem_map_of_mem List.mem_cons_self)
  · rw [List.mem_singleton.mp hfile]
    exact hwritten

end Writing

end Export

/-! ## Exported packages -/

namespace Package

/-- No two resources share a file, and none takes the place of the descriptor or leads out of the
    directory, whatever the names of the resources are.  So all that an export writes lies in the
    directory itself, and it is found there afterwards. -/
theorem files_apart (p : Package) :
    (∀ i j r r', p.resources[i]? = some r → p.resources[j]? = some r' → i ≠ j →
      resourceFile i r ≠ resourceFile j r') ∧
    (∀ i r, p.resources[i]? = some r →
      IsSafeName (resourceFile i r) ∧ resourceFile i r ≠ descriptorFile) ∧
    ∀ format e directory, p.export format = .ok e →
      (∀ file ∈ e.files, Files.plainParts (joinPath directory file.name)
        = Files.plainParts directory ++ [file.name]) ∧
      (e.files.map fun file => Files.plainParts (joinPath directory file.name)).Nodup ∧
      ∀ base f g, e.store (Files.systemAt base) directory f = (.ok (), g) →
        ∀ file ∈ e.files,
          g.read (joinPath base (joinPath directory file.name)) = .ok file.text := by
  refine ⟨?_, ?_, ?_⟩
  · intro i j r r' _ _ hne heq
    exact hne (place_of_resourceFile heq)
  · intro i r _
    exact ⟨isSafeName_resourceFile i r, resourceFile_ne_descriptorFile i r⟩
  · intro format e directory he
    have hapart := Export.apart_files he
    have hplace : ∀ file ∈ e.files, Files.plainParts (joinPath directory file.name)
        = Files.plainParts directory ++ [file.name] := by
      intro file hfile
      exact Files.plainParts_joinPath (hapart.safe file hfile).toNamesEntry directory
    refine ⟨hplace, ?_, ?_⟩
    · have hpaths : (e.files.map fun file => Files.plainParts (joinPath directory file.name))
          = (e.files.map (·.name)).map (Files.plainParts directory ++ [·]) := by
        rw [List.map_map]
        exact List.map_congr_left hplace
      -- one directory in front of all names keeps them apart
      rw [hpaths]
      refine hapart.distinct.map ?_
      intro name name' heq
      exact List.singleton_inj.mp (List.append_cancel_left heq)
    · intro base f g hstore
      exact Export.read_of_store hapart hstore

/-- Two resources of one name that begins like a place and holds a path separator. -/
def crowded : Package where
  name := "p"
  resources := List.replicate 2 {
    name := "1-/"
    schema := { fields := [⟨{ name := "b" }, .string {}⟩], rowCount := 0 }
    rows := [] }

/-- What is exported from those two resources: the table files "0-1-_.csv" and "1-1-_.csv" beside
    the descriptor.  The separator in their name has become an underscore. -/
theorem export_crowded : ∃ t u v, crowded.export .csv = .ok
    ⟨[⟨"0-1-_.csv", t⟩, ⟨"1-1-_.csv", u⟩], ⟨"datapackage.json", v⟩, 2, 0⟩ := by
  have hfirst : ∀ r ∈ crowded.resources, resourceFile 0 r = "0-1-_.csv" := by decide +kernel
  have hsecond : ∀ r ∈ crowded.resources, resourceFile 1 r = "1-1-_.csv" := by decide +kernel
  have hexport : crowded.export .csv = .ok ⟨tableFiles 0 crowded.resources,
      ⟨"datapackage.json", descriptorText (crowded.descriptor .csv)⟩, 2, 0⟩ :=
    seq_eq_ok_iff.mpr ⟨by decide +kernel, rfl⟩
  rw [← hfirst _ List.mem_cons_self, ← hsecond _ List.mem_cons_self]
  exact ⟨_, _, _, hexport⟩

/-- A file that is not there yet is written at the root, if its name is one of an entry and not too
    long.  What is left is the tree with that entry put in. -/
theorem write_root {f : Files} {name : String} (hname : IsSafeName name)
    (hshort : name.utf8ByteSize ≤ Files.longestName) (hnone : f.lookup? [name] = none)
    (text : String) : (Files.systemAt "").write (joinPath "" name) text f
      = (.ok (), f.put [name] (.bytes text.toUTF8)) := by
  have hparts : pathParts name = [name] := pathParts_of_no_slash hname.no_slash
  have husable : Files.usableParts name = .ok ([] ++ [name]) := by
    rw [Files.usableParts_of_short, hparts]
    · rfl
    · intro hnull
      exact absurd (hname.harmless _ hnull) (by decide)
    · exact Nat.le_trans hshort (by decide)
  have hfree : f.lookup? [name] ≠ some .directory := by
    rw [hnone]
    nofun
  show Files.change (·.write (joinPath "" (joinPath "" name)) text) f = _
  rw [Files.change_eq_ok_iff, joinPath_empty, joinPath_empty]
  exact (Files.write_eq_ok_iff ⟨hparts, hname.toNamesEntry⟩).mpr
    ⟨husable, hshort, [], rfl, hfree, rfl⟩

/-- Two resources of one name, "1" with a hyphen and a slash behind it, are given the files
    "0-1-_.csv" and "1-1-_.csv".  Stored into an empty directory, these two and the descriptor are
    all found there with their texts. -/
theorem files_apart_crowded :
    (∃ r, crowded.resources[0]? = some r ∧ crowded.resources[1]? = some r ∧
      resourceFile 0 r ≠ resourceFile 1 r ∧ resourceFile 1 r ≠ descriptorFile) ∧
    ∃ e g, crowded.export .csv = .ok e ∧
      e.files.map (·.name) = ["0-1-_.csv", "1-1-_.csv", "datapackage.json"] ∧
      e.store (Files.systemAt "") "" Files.empty = (.ok (), g) ∧
      ∀ file ∈ e.files, g.read (joinPath "" (joinPath "" file.name)) = .ok file.text := by
  obtain ⟨hplaces, hnames, hstored⟩ := files_apart crowded
  obtain ⟨t, u, v, hexport⟩ := export_crowded
  have hsafe := (Export.apart_files hexport).safe
  have hfirst : IsSafeName "0-1-_.csv" := hsafe ⟨_, t⟩ List.mem_cons_self
  have hsecond : IsSafeName "1-1-_.csv" :=
    hsafe ⟨_, u⟩ (List.mem_cons_of_mem _ List.mem_cons_self)
  have hmade : (Files.systemAt "").makeDirectories "" Files.empty = (.ok (), Files.empty) := by
    show Files.change (·.makeDirectories (joinPath "" "")) Files.empty = _
    rw [Files.change_eq_ok_iff, joinPath_empty, Files.makeDirectories,
      Files.usableParts_of_short (by decide) (by decide)]
    rfl
  -- each file is written beside those before it
  obtain ⟨one, two, three, hone, htwo, hthree⟩ : ∃ one two three,
      (Files.systemAt "").write (joinPath "" "0-1-_.csv") t Files.empty = (.ok (), one) ∧
      (Files.systemAt "").write (joinPath "" "1-1-_.csv") u one = (.ok (), two) ∧
      (Files.systemAt "").write (joinPath "" descriptorFile) v two = (.ok (), three) :=
    ⟨_, _, _, write_root hfirst (by decide) rfl t, write_root hsecond (by decide) rfl u,
      write_root isSafeName_descriptorFile (by decide) rfl v⟩
  have hstore : (⟨[⟨"0-1-_.csv", t⟩, ⟨"1-1-_.csv", u⟩], ⟨"datapackage.json", v⟩, 2, 0⟩ :
      Export).store (Files.systemAt "") "" Files.empty = (.ok (), three) := by
    refine run_bind_eq_ok_iff.mpr ⟨(), _, run_adapt_eq_ok_iff.mpr hmade, ?_⟩
    refine run_bind_eq_ok_iff.mpr ⟨(), two, ?_, run_adapt_eq_ok_iff.mpr hthree⟩
    refine run_bind_eq_ok_iff.mpr ⟨(), one, run_adapt_eq_ok_iff.mpr hone, ?_⟩
    exact run_bind_eq_ok_iff.mpr ⟨(), two, run_adapt_eq_ok_iff.mpr htwo, rfl⟩
  constructor
  · exact ⟨_, rfl, rfl, hplaces 0 1 _ _ rfl rfl (by decide), (hnames 1 _ rfl).2⟩
  · exact ⟨_, three, hexport, rfl, hstore, (hstored .csv _ "" hexport).2.2 "" _ three hstore⟩

end Package

end SyntheticTables
