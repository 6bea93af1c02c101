/-
  Paths, part by part.

  A path that is seen from a directory has the parts of the directory in front, whether or not the
  directory is written with a slash at its end (`pathParts_joinPath`).  So a name without slashes
  leads into the directory itself and nowhere else (`Files.plainParts_joinPath`).
-/
import SyntheticTables.Files.Tree

namespace SyntheticTables

/-! ## Slashes -/

/-- A path begins at the root when its first character is a slash. -/
theorem startsWith_slash_iff {path : String} :
    path.startsWith "/" = true ↔ ∃ cs, path.toList = '/' :: cs := by
  rw [String.startsWith_string_iff]
  constructor
  · rintro ⟨cs, hcs⟩
    exact ⟨cs, hcs.symm⟩
  · rintro ⟨cs, hcs⟩
    exact ⟨cs, hcs.symm⟩

/-- A path that ends with a slash has a last character, and it is one. -/
theorem endsWith_slash_iff {path : String} :
    path.endsWith "/" = true ↔ ∃ cs, path.toList = cs ++ ['/'] := by
  rw [String.endsWith_eq_endsWith_toSlice, String.Slice.endsWith_string_iff, String.copy_toSlice]
  constructor
  · rintro ⟨cs, hcs⟩
    exact ⟨cs, hcs.symm⟩
  · rintro ⟨cs, hcs⟩
    exact ⟨cs, hcs.symm⟩

/-- A slash ends one part and begins another. -/
theorem pathParts_of_slash {path : String} {before after : List Char}
    (h : path.toList = before ++ '/' :: after) :
    pathParts path = pathParts (String.ofList before) ++ pathParts (String.ofList after) := by
  unfold pathParts
  rw [h, List.splitOn_append_cons_self, List.map_append, String.toList_ofList, String.toList_ofList]

/-- A name without slashes is a path of one part. -/
theorem pathParts_of_no_slash {name : String} (h : '/' ∉ name.toList) : pathParts name = [name] := by
  unfold pathParts
  rw [List.splitOn_eq_singleton h, List.map_singleton, String.ofList_toList]

/-! ## Paths seen from a directory -/

/-- The parts that a directory puts in front of a path.  The empty directory puts none there, and a
    slash at the end does not count as a part that is empty. -/
def directoryParts (directory : String) : List String :=
  if directory = "" then []
  else if directory.endsWith "/" then (pathParts directory).dropLast
  else pathParts directory

/-- Seen from nowhere, a path is what it is. -/
theorem joinPath_empty (path : String) : joinPath "" path = path := by
  rw [joinPath, if_pos (by simp)]

/-- The parts of the directory come first, then those of the path, as long as the path does not
    begin at the root. -/
theorem pathParts_joinPath {path : String} (h : path.startsWith "/" = false) (directory : String) :
    pathParts (joinPath directory path) = directoryParts directory ++ pathParts path := by
  unfold joinPath directoryParts
  rw [h, Bool.false_or]
  by_cases hempty : directory = ""
  · simp [hempty]
  · rw [if_neg (by simpa using hempty), if_neg hempty]
    -- the slash that parts the two is either there already or put in between
    by_cases hslash : directory.endsWith "/" = true
    · rw [if_pos hslash, if_pos hslash]
      obtain ⟨cs, hcs⟩ := endsWith_slash_iff.mp hslash
      have hdirectory : pathParts directory = pathParts (String.ofList cs) ++ [""] :=
        pathParts_of_slash hcs
      have hjoined : (directory ++ path).toList = cs ++ '/' :: path.toList := by
        rw [String.toList_append, hcs, List.append_assoc, List.singleton_append]
      rw [pathParts_of_slash hjoined, String.ofList_toList, hdirectory, List.dropLast_concat]
    · rw [if_neg hslash, if_neg hslash]
      have hjoined : (directory ++ "/" ++ path).toList = directory.toList ++ '/' :: path.toList := by
        rw [String.toList_append, String.toList_append, List.append_assoc]
        rfl
      rw [pathParts_of_slash hjoined, String.ofList_toList, String.ofList_toList]

section Names

variable {name : String} (h : '/' ∉ name.toList)
include h

/-- A name without slashes does not begin at the root. -/
theorem startsWith_slash_of_no_slash : name.startsWith "/" = false := by
  rw [Bool.eq_false_iff]
  intro hslash
  obtain ⟨cs, hcs⟩ := startsWith_slash_iff.mp hslash
  rw [hcs] at h
  exact h List.mem_cons_self

/-- A name without slashes is one part behind those of the directory. -/
theorem pathParts_joinPath_name (directory : String) :
    pathParts (joinPath directory name) = directoryParts directory ++ [name] := by
  rw [pathParts_joinPath (startsWith_slash_of_no_slash h), pathParts_of_no_slash h]

/-- Whether the path to such a name begins at the root is a matter of the directory, since the name
    has no slash to begin with. -/
theorem startsWith_joinPath_name (directory : String) :
    (joinPath directory name).startsWith "/" = directory.startsWith "/" := by
  unfold joinPath
  rw [startsWith_slash_of_no_slash h, Bool.false_or]
  by_cases hempty : directory = ""
  · rw [if_pos (by simpa using hempty), hempty, startsWith_slash_of_no_slash h]
    rfl
  · rw [if_neg (by simpa using hempty)]
    -- the first character of the directory stays the first
    have hfirst : ∀ rest, (directory ++ rest).startsWith "/" = directory.startsWith "/" := by
      intro rest
      rw [Bool.eq_iff_iff, startsWith_slash_iff, startsWith_slash_iff, String.toList_append]
      cases hchars : directory.toList with
      | nil => exact absurd (String.toList_eq_nil_iff.mp hchars) hempty
      | cons c cs => simp
    by_cases hslash : directory.endsWith "/" = true
    · rw [if_pos hslash]
      exact hfirst name
    · rw [if_neg hslash, String.append_assoc]
      exact hfirst ("/" ++ name)

end Names

namespace Files

/-- Empty parts and single periods lead nowhere, so it does not matter how a directory ends: with a
    slash at its end it has one empty part more. -/
theorem filter_directoryParts (directory : String) :
    ((directoryParts directory).filter fun p => p ≠ "" && p ≠ ".") = plainParts directory := by
  unfold directoryParts plainParts
  by_cases hempty : directory = ""
  · rw [if_pos hempty, hempty]
    rfl
  · rw [if_neg hempty]
    by_cases hslash : directory.endsWith "/" = true
    · rw [if_pos hslash]
      obtain ⟨cs, hcs⟩ := endsWith_slash_iff.mp hslash
      have hdirectory : pathParts directory = pathParts (String.ofList cs) ++ [""] :=
        pathParts_of_slash hcs
      rw [hdirectory, List.dropLast_concat, List.filter_append]
      simp
    · rw [if_neg hslash]

/-- A name for an entry of a directory: one part that does not stand for a directory, be it this one
    or the one above. -/
structure NamesEntry (name : String) : Prop where
  no_slash : '/' ∉ name.toList
  ne_empty : name ≠ ""
  ne_period : name ≠ "."
  ne_periods : name ≠ ".."

/-- The name of an entry leads from a directory to a place in that directory: one part more,
    whatever the directory's own parts are. -/
theorem plainParts_joinPath {name : String} (hname : NamesEntry name) (directory : String) :
    plainParts (joinPath directory name) = plainParts directory ++ [name] := by
  rw [← filter_directoryParts directory, plainParts, pathParts_joinPath_name hname.no_slash,
    List.filter_append]
  simp [hname.ne_empty, hname.ne_period]

end Files

end SyntheticTables
