/-
  Reading and writing in a tree of files.

  A path to an entry of a directory is followed into the directory, and there by the name
  (`Files.reach_eq_ok_iff`); reading and writing are what lies there.  A file that is written in the
  place of none or of another takes no directory away, so every way stays, and what lies elsewhere
  stays with it (`Files.read_of_write_other`).
-/
import SyntheticTables.Proofs.Checks
import SyntheticTables.Proofs.Files

namespace SyntheticTables.Files

/-! ## What a change leaves as it was -/

variable {f g : Files}

/-- What was put at a place is found there. -/
theorem lookup?_put_self (f : Files) (parts : List String) (content : FileContent) :
    (f.put parts content).lookup? parts = some content := by
  unfold put lookup?
  simp

/-- What lies elsewhere stays there, also a directory that is there only because of what lies below
    it: the entry that was put in may have replaced what lay below, but lies below as well. -/
theorem lookup?_put {parts other : List String} {content found : FileContent} (hne : other ≠ parts)
    (h : f.lookup? other = some found) : (f.put parts content).lookup? other = some found := by
  -- the entry of another path is found as before
  have hfind : (f.put parts content).entries.find? (·.1 = other) = f.entries.find? (·.1 = other) := by
    have hhead : ¬ parts = other := fun heq => hne heq.symm
    show ((parts, content) :: f.entries.filter (·.1 ≠ parts)).find? (·.1 = other) = _
    rw [List.find?_cons_of_neg (by simpa using hhead), List.find?_filter]
    congr 1
    funext e
    by_cases he : e.1 = other
    · simp [he, hne]
    · simp [he]
  unfold lookup? at h ⊢
  rw [hfind]
  cases hentry : f.entries.find? (·.1 = other) with
  | some e =>
    rw [hentry] at h
    exact h
  | none =>
    rw [hentry] at h
    change (if other.isEmpty || f.entries.any fun e => other.isPrefixOf e.1 then
      some FileContent.directory else none) = some found at h
    by_cases hbelow : (other.isEmpty || f.entries.any fun e => other.isPrefixOf e.1) = true
    · -- a directory that is there because of what lies below it
      have hstill : (other.isEmpty ||
          (f.put parts content).entries.any fun e => other.isPrefixOf e.1) = true := by
        rw [Bool.or_eq_true] at hbelow ⊢
        refine hbelow.imp_right fun hany => ?_
        obtain ⟨e, he, hprefix⟩ := List.any_eq_true.mp hany
        by_cases heq : e.1 = parts
        · exact List.any_eq_true.mpr ⟨(parts, content), List.mem_cons_self, heq ▸ hprefix⟩
        · refine List.any_eq_true.mpr ⟨e, List.mem_cons_of_mem _ ?_, hprefix⟩
          exact List.mem_filter.mpr ⟨he, by simpa using heq⟩
      rw [if_pos hbelow] at h
      show (if _ then some FileContent.directory else none) = some found
      rw [if_pos hstill]
      exact h
    · rw [if_neg hbelow] at h
      cases h

/-- A step that leads to something other than what is replaced leads there still.  Steps that stay
    or go up do not look into the tree at all. -/
theorem step_put {here there parts : List String} {part : String} {content found : FileContent}
    (hother : f.lookup? parts ≠ some found) (h : f.step here part = .ok (there, some found)) :
    (f.put parts content).step here part = .ok (there, some found) := by
  unfold step at h ⊢
  by_cases hlong : longestName < part.utf8ByteSize
  · rw [if_pos hlong] at h
    cases h
  · rw [if_neg hlong] at h ⊢
    by_cases hstay : (part = "" || part = ".") = true
    · rw [if_pos hstay] at h ⊢
      exact h
    · rw [if_neg hstay] at h ⊢
      by_cases hup : part = ".."
      · rw [if_pos hup] at h ⊢
        exact h
      · rw [if_neg hup] at h ⊢
        simp only [Except.ok.injEq, Prod.mk.injEq] at h ⊢
        obtain ⟨hthere, hfound⟩ := h
        -- a proper name is the only part that looks into the tree
        refine ⟨hthere, lookup?_put ?_ hfound⟩
        rintro rfl
        exact hother hfound

/-- Where no directory is replaced, all ways into directories stay.  By induction on the parts of
    the way: each step leads to a directory, which is not what is replaced. -/
theorem enter_put {parts : List String} {content : FileContent}
    (hfree : f.lookup? parts ≠ some .directory) (names : List String) :
    ∀ {here there : List String}, f.enter here names = .ok there →
      (f.put parts content).enter here names = .ok there := by
  induction names with
  | nil => exact fun h => h
  | cons name rest ih =>
    intro here there h
    unfold enter at h ⊢
    split at h
    · cases h
    · cases h
    · cases h
    · rename_i next hstep
      rw [step_put hfree hstep]
      exact ih h

/-! ## Files in a directory -/

/-- A short enough name of an entry leads one step down, to whatever lies there. -/
theorem step_name {here : List String} {name : String} (hname : NamesEntry name)
    (hshort : name.utf8ByteSize ≤ longestName) :
    f.step here name = .ok (name :: here, f.lookup? (name :: here).reverse) := by
  unfold step
  rw [if_neg (Nat.not_lt.mpr hshort), if_neg (by simp [hname.ne_empty, hname.ne_period]),
    if_neg hname.ne_periods]

/-- A path to an entry of a directory: the way to the directory, and then the name. -/
structure LeadsTo (path : String) (directory : List String) (name : String) : Prop where
  parts : pathParts path = directory ++ [name]
  entry : NamesEntry name

/-- A path that can be followed is followed along its parts. -/
theorem usableParts_eq_ok {path : String} {parts : List String} (h : usableParts path = .ok parts) :
    parts = pathParts path := by
  unfold usableParts at h
  split at h
  · cases h
  · split at h
    · cases h
    · exact (Except.ok.inj h).symm

/-- A path without a null character that is not too long can be followed. -/
theorem usableParts_of_short {path : String} (hnull : '\x00' ∉ path.toList)
    (hshort : path.utf8ByteSize ≤ longestPath) : usableParts path = .ok (pathParts path) := by
  unfold usableParts
  rw [String.contains_char_eq, if_neg (by simpa using hnull), if_neg (Nat.not_lt.mpr hshort)]

variable {path name : String} {directory : List String}

/-- A path to an entry is followed into the directory, and there by the name.  What is reached may
    be nothing yet: that is for those who read or write to judge. -/
theorem reach_eq_ok_iff (hpath : LeadsTo path directory name)
    {found : List String × Option FileContent} :
    f.reach path = .ok found ↔ usableParts path = .ok (directory ++ [name]) ∧
      name.utf8ByteSize ≤ longestName ∧ ∃ here, f.enter [] directory = .ok here ∧
        (name :: here, f.lookup? (name :: here).reverse) = found := by
  unfold reach
  rw [bind_eq_ok_iff]
  constructor
  · rintro ⟨parts, hparts, h⟩
    have hsplit : parts = directory ++ [name] := (usableParts_eq_ok hparts).trans hpath.parts
    subst hsplit
    rw [List.dropLast_concat, List.getLastD_concat, bind_eq_ok_iff] at h
    obtain ⟨here, hhere, hstep⟩ := h
    -- a longer name is refused at the last step
    have hshort : name.utf8ByteSize ≤ longestName := by
      refine Nat.not_lt.mp fun hlong => ?_
      unfold step at hstep
      rw [if_pos hlong] at hstep
      cases hstep
    rw [step_name hpath.entry hshort] at hstep
    exact ⟨hparts, hshort, here, hhere, Except.ok.inj hstep⟩
  · rintro ⟨hparts, hshort, here, hhere, rfl⟩
    refine ⟨_, hparts, ?_⟩
    rw [List.dropLast_concat, List.getLastD_concat, bind_eq_ok_iff]
    exact ⟨here, hhere, step_name hpath.entry hshort⟩

/-- Such a path is aimed at as it is reached; only a path with an empty last part would be treated
    in another way. -/
theorem aim_eq_reach (hpath : LeadsTo path directory name) : f.aim path = f.reach path := by
  unfold aim
  cases hparts : usableParts path with
  | error e =>
    unfold reach
    rw [hparts]
    rfl
  | ok parts =>
    have hreverse : parts.reverse = name :: directory.reverse := by
      rw [usableParts_eq_ok hparts, hpath.parts, List.reverse_append]
      rfl
    rw [ok_bind, hreverse]
    split
    · rename_i heq
      exact absurd (List.cons.inj heq).1 hpath.entry.ne_empty
    · rfl

/-- A text is read where a file lies that holds it, that is, bytes which are its encoding.  A
    directory in its place, or bytes that are no text, are errors. -/
theorem read_eq_ok_iff (hpath : LeadsTo path directory name) {text : String} :
    f.read path = .ok text ↔ usableParts path = .ok (directory ++ [name]) ∧
      name.utf8ByteSize ≤ longestName ∧ ∃ here b, f.enter [] directory = .ok here ∧
        f.lookup? (name :: here).reverse = some (.bytes b) ∧ String.fromUTF8? b = some text := by
  unfold read
  constructor
  · intro h
    -- only bytes are read; a directory and nothing at all are two other errors
    split at h
    · cases h
    · cases h
    · cases h
    · rename_i there b hreach
      obtain ⟨hparts, hshort, here, hhere, hfound⟩ := (reach_eq_ok_iff hpath).mp hreach
      refine ⟨hparts, hshort, here, b, hhere, congrArg Prod.snd hfound, ?_⟩
      split at h
      · rename_i htext
        rw [htext, Except.ok.inj h]
      · cases h
  · rintro ⟨hparts, hshort, here, b, hhere, hfound, htext⟩
    have hreach : f.reach path = .ok (name :: here, some (.bytes b)) :=
      (reach_eq_ok_iff hpath).mpr ⟨hparts, hshort, here, hhere, by rw [hfound]⟩
    simp only [hreach, htext]

/-- A text is written where no directory lies, into a directory that is there.  A file that lay
    there is replaced, and nothing else changes. -/
theorem write_eq_ok_iff (hpath : LeadsTo path directory name) {text : String} :
    f.write path text = .ok g ↔ usableParts path = .ok (directory ++ [name]) ∧
      name.utf8ByteSize ≤ longestName ∧ ∃ here, f.enter [] directory = .ok here ∧
        f.lookup? (name :: here).reverse ≠ some .directory ∧
        f.put (name :: here).reverse (.bytes text.toUTF8) = g := by
  unfold write writeBytes
  rw [aim_eq_reach hpath]
  constructor
  · intro h
    split at h
    · cases h
    · cases h
    -- nothing was there, or a file that is replaced
    · rename_i there hreach
      obtain ⟨hparts, hshort, here, hhere, hfound⟩ := (reach_eq_ok_iff hpath).mp hreach
      obtain ⟨rfl, hnone⟩ := Prod.mk.inj hfound
      exact ⟨hparts, hshort, here, hhere, by rw [hnone]; nofun, Except.ok.inj h⟩
    · rename_i there b hreach
      obtain ⟨hparts, hshort, here, hhere, hfound⟩ := (reach_eq_ok_iff hpath).mp hreach
      obtain ⟨rfl, hbytes⟩ := Prod.mk.inj hfound
      exact ⟨hparts, hshort, here, hhere, by rw [hbytes]; nofun, Except.ok.inj h⟩
  · rintro ⟨hparts, hshort, here, hhere, hfree, rfl⟩
    have hreach : f.reach path = .ok (name :: here, f.lookup? (name :: here).reverse) :=
      (reach_eq_ok_iff hpath).mpr ⟨hparts, hshort, here, hhere, rfl⟩
    rw [hreach]
    cases hfound : f.lookup? (name :: here).reverse with
    | none => rfl
    | some content =>
      cases content with
      | bytes b => rfl
      | directory => exact absurd hfound hfree

/-- What was written is read: the way into the directory stays, and the file lies at its end. -/
theorem read_of_write (hpath : LeadsTo path directory name) {text : String}
    (h : f.write path text = .ok g) : g.read path = .ok text := by
  obtain ⟨hparts, hshort, here, hhere, hfree, rfl⟩ := (write_eq_ok_iff hpath).mp h
  refine (read_eq_ok_iff hpath).mpr ⟨hparts, hshort, here, text.toUTF8, ?_, ?_, ?_⟩
  · exact enter_put hfree directory hhere
  · exact lookup?_put_self f _ _
  · exact dif_pos text.isValidUTF8

/-- Writing to one entry of a directory leaves the texts of the others.  Both paths lead into the
    same directory, and the entry written is not on the way to it. -/
theorem read_of_write_other {other text text' : String} {path' : String}
    (hpath : LeadsTo path directory name) (hpath' : LeadsTo path' directory other)
    (hne : other ≠ name) (h : f.write path text = .ok g) (hread : f.read path' = .ok text') :
    g.read path' = .ok text' := by
  obtain ⟨-, -, here, hhere, hfree, rfl⟩ := (write_eq_ok_iff hpath).mp h
  obtain ⟨hparts, hshort, here', b, hhere', hfound, htext⟩ := (read_eq_ok_iff hpath').mp hread
  have hsame : here' = here := Except.ok.inj (hhere'.symm.trans hhere)
  subst hsame
  refine (read_eq_ok_iff hpath').mpr ⟨hparts, hshort, here', b, ?_, ?_, htext⟩
  · exact enter_put hfree directory hhere'
  · refine lookup?_put ?_ hfound
    intro heq
    rw [List.reverse_inj] at heq
    exact hne (List.cons.inj heq).1

/-! ## Paths into a directory -/

/-- The way to a directory that is seen from another, unless it begins at the root. -/
def partsFrom (base directory : String) : List String :=
  if directory.startsWith "/" then directoryParts directory
  else directoryParts base ++ directoryParts directory

/-- The path to an entry of a directory, seen from another directory, leads there; an absolute
    directory is not seen from anywhere, so then the other one does not count. -/
theorem leadsTo_joinPath (hname : NamesEntry name) (base directory : String) :
    LeadsTo (joinPath base (joinPath directory name)) (partsFrom base directory) name where
  parts := by
    unfold partsFrom
    by_cases habsolute : directory.startsWith "/" = true
    · have hpath : joinPath base (joinPath directory name) = joinPath directory name := by
        rw [joinPath, startsWith_joinPath_name hname.no_slash, habsolute]
        rfl
      rw [if_pos habsolute, hpath, pathParts_joinPath_name hname.no_slash]
    · have hrelative : (joinPath directory name).startsWith "/" = false := by
        rw [startsWith_joinPath_name hname.no_slash]
        simpa using habsolute
      rw [if_neg habsolute, pathParts_joinPath hrelative, pathParts_joinPath_name hname.no_slash,
        List.append_assoc]
  entry := hname

/-! ## Changes -/

/-- A change succeeds when what it does to the files does, and leaves the files as that left them.
    A change that fails leaves them as they were, of which nothing is said here. -/
theorem change_eq_ok_iff {act : Files → Except FileError Files} :
    change act f = (.ok (), g) ↔ act f = .ok g := by
  unfold change
  cases act f with
  | error e => exact ⟨nofun, nofun⟩
  | ok changed =>
    constructor
    · intro h
      cases h
      rfl
    · intro h
      cases h
      rfl

end SyntheticTables.Files
