import Mathlib.Data.List.Basic
import Mathlib.Data.List.Nodup
import Mathlib.Logic.Function.Basic

/-!
# Paths and disks

A POSIX path as the sequence of its segments, and a disk as a map from locations to contents. A path
denotes the location that is left when its empty and its `.` segments are dropped, so a location can
have many paths. Writing files one after the other leaves at each location what was written there last.
-/

namespace Posix

/-- The segments of a path. -/
def segments (path : String) : List (List Char) :=
  path.toList.splitOn '/'

/-- Whether a segment leads nowhere else. -/
def isIdle (segment : List Char) : Bool :=
  segment = [] || segment = ['.']

/-- The location that a path denotes. -/
def resolve (path : String) : List (List Char) :=
  (segments path).filter fun segment => !isIdle segment

lemma segments_join (directory path : String) :
    segments (directory ++ "/" ++ path) = segments directory ++ segments path := by
  have text : (directory ++ "/" ++ path).toList =
      directory.toList ++ '/' :: path.toList := by
    simp
  rw [segments, text, List.splitOn_append_cons_self]
  rfl

/-- A path below a directory denotes a location below the directory's. -/
lemma resolve_join (directory path : String) :
    resolve (directory ++ "/" ++ path) = resolve directory ++ resolve path := by
  rw [resolve, segments_join, List.filter_append]
  rfl

end Posix

/-- A disk: what is stored at each location. -/
abbrev Disk (Location Content : Type) : Type :=
  Location → Option Content

namespace Disk
variable {Location Content File : Type} [DecidableEq Location] {location : File → Location}
  {content : File → Content} {disk : Disk Location Content} {files : List File}

/-- Writes files to a disk, one after the other. -/
def writeAll (location : File → Location) (content : File → Content) (files : List File)
    (disk : Disk Location Content) : Disk Location Content :=
  files.foldl (fun disk file => Function.update disk (location file) (some (content file))) disk

/-- Where nothing is written the disk is as before. -/
lemma writeAll_other {here : Location} (other : ∀ file ∈ files, location file ≠ here) :
    writeAll location content files disk here = disk here := by
  induction files generalizing disk with
  | nil => rfl
  | cons file files ih =>
    rw [writeAll, List.foldl_cons]
    have rest : writeAll location content files
        (Function.update disk (location file) (some (content file))) here =
          Function.update disk (location file) (some (content file)) here :=
      ih fun file' mem => other file' (List.mem_cons_of_mem _ mem)
    exact rest.trans (Function.update_of_ne (Ne.symm (other file List.mem_cons_self)) ..)

/-- Files that are written to different locations are all found there. -/
lemma writeAll_mem (distinct : (files.map location).Nodup) {file : File} (mem : file ∈ files) :
    writeAll location content files disk (location file) = some (content file) := by
  induction files generalizing disk with
  | nil => cases mem
  | cons first files ih =>
    obtain ⟨fresh, distinct⟩ := List.nodup_cons.mp distinct
    rw [writeAll, List.foldl_cons]
    obtain rfl | mem := List.mem_cons.mp mem
    · have later : ∀ file' ∈ files, location file' ≠ location file := by
        intro file' mem same
        apply fresh
        rw [← same]
        exact List.mem_map_of_mem mem
      exact (writeAll_other later).trans (Function.update_self ..)
    · exact ih distinct mem

/-- What is found on a disk that was empty was written there. -/
lemma writeAll_written {here : Location}
    (found : writeAll location content files (fun _ => none) here ≠ none) :
    ∃ file ∈ files, location file = here := by
  by_contra nothing
  apply found
  rw [writeAll_other]
  intro file mem same
  exact nothing ⟨file, mem, same⟩

end Disk
