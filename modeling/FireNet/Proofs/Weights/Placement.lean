/-
Where a directory keeps its blobs. A blob is stored under the root and its
name, and the name is one more step of that path: it brings no slash, it is
not a dot, and it cannot make the path absolute. So whenever the path means
a file, that file lies in the very directory that the root leads to, and has
the name of the blob. Names tell keys apart, so no other blob has that file.
-/
import FireNet.Proofs.Files.Tree
import FireNet.Proofs.Weights.Names
import FireNet.Weights.Store

set_option autoImplicit false

namespace FireNet

-- ================================================================ paths

theorem startsWith_slash_append {front back : String}
    (h : front.isEmpty = false) :
    (front ++ back).startsWith "/" = front.startsWith "/" := by
  have hne : front.toList ≠ [] := by
    intro hnil
    rw [String.isEmpty_eq_false_iff] at h
    exact h (String.toList_inj.mp hnil)
  rw [Bool.eq_iff_iff, String.startsWith_string_iff,
    String.startsWith_string_iff, String.toList_append]
  cases hfront : front.toList with
  | nil => exact absurd hfront hne
  | cons c rest => simp

/-- A plain name does not change where a path starts. -/
theorem startsWith_slash_joinPath {root name : String} (h : Plain name) :
    (joinPath root name).startsWith "/" = root.startsWith "/" := by
  unfold joinPath
  rw [if_neg (by rw [h.startsWith_slash]; decide)]
  cases hempty : root.isEmpty with
  | true =>
      rw [String.isEmpty_iff] at hempty
      rw [hempty, Bool.true_or, if_pos rfl, String.empty_append,
        h.startsWith_slash]
      rfl
  | false =>
      split
      · exact startsWith_slash_append hempty
      · rw [String.append_assoc]
        exact startsWith_slash_append hempty

namespace FileTree

variable {t : FileTree} {root plain name : String} {directory : Nat}

/-- The directory that a path leads to when each of its names is one. -/
def directory? (t : FileTree) (path : String) : Option Nat :=
  match (pathNames path).foldlM t.enter
    (if path.startsWith "/" then [] else home) with
  | .ok trail => some trail.current
  | .error _ => none

/-- The file of a plain name below a root lies in the directory of the root. -/
theorem directory_of_joinPath (hplain : Plain plain)
    (h : t.file? (joinPath root plain) = some (directory, name)) :
    t.directory? root = some directory := by
  obtain ⟨r, hroute, hlocate, -, -⟩ := file?_eq_some_iff.1 h
  obtain ⟨hstart, hway, -⟩ := parts_of_route hroute
  rw [startsWith_slash_joinPath hplain] at hstart
  rw [pathNames_joinPath hplain, List.dropLast_concat] at hway
  unfold locate at hlocate
  obtain ⟨trail, htrail, hlocate⟩ := Outcome.bind_eq_ok_iff.1 hlocate
  rw [hway, hstart] at htrail
  unfold directory?
  rw [htrail]
  split at hlocate
  next => cases hlocate
  next => cases hlocate
  next => cases hlocate
  next =>
    cases hlocate
    rfl

end FileTree

-- ================================================================ blobs

namespace BlobKey

/-- Blobs of one name are the same blob, and each name is made of lower-case
letters and digits, at least one. So a store keeps every blob one step below
its root: the file that the path means is that of its name in the directory
of the root, and no other blob has it. -/
theorem placed_by_name (key other : BlobKey) (store : DirectoryStore) :
    (key.name = other.name ↔ key = other)
      ∧ key.name ≠ ""
      ∧ (∀ c ∈ key.name.toList, c.isLower = true ∨ c.isDigit = true)
      ∧ pathNames (store.path key.name) = pathNames store.root ++ [key.name]
      ∧ ∀ (t : FileTree) (file : Nat × String),
        t.file? (store.path key.name) = some file →
        t.directory? store.root = some file.1 ∧ file.2 = key.name
          ∧ (t.file? (store.path other.name) = some file → key = other) := by
  refine ⟨⟨name_injective, congrArg name⟩, ?_,
    fun _ => isLower_or_isDigit_of_mem_name, pathNames_joinPath plain_name, ?_⟩
  · intro hempty
    have hne : key.name.toList ≠ [] := toList_name_ne_nil
    exact hne (congrArg String.toList hempty)
  · intro t file hfile
    obtain ⟨directory, last⟩ := file
    have hlast : last = key.name := FileTree.name_of_joinPath plain_name hfile
    refine ⟨FileTree.directory_of_joinPath plain_name hfile, hlast,
      fun hother => ?_⟩
    have hsame : last = other.name :=
      FileTree.name_of_joinPath plain_name hother
    exact name_injective (hlast.symm.trans hsame)

/-- Two blobs whose names are written with the same digits. -/
theorem placed_by_name_same_digits :
    ∃ key other : BlobKey,
      key = weight (.block 1 11 .two 0) ∧ other = weight (.block 11 1 .two 0)
        ∧ key.name ≠ other.name
        ∧ (∀ c ∈ key.name.toList, c.isLower = true ∨ c.isDigit = true)
        ∧ FileTree.empty.file? (DirectoryStore.path ⟨"."⟩ key.name)
          = some (2, key.name)
        ∧ FileTree.empty.directory? "." = some 2
        ∧ FileTree.empty.file? (DirectoryStore.path ⟨"."⟩ other.name)
          ≠ some (2, key.name) := by
  obtain ⟨hname, -, hplain, -, hfiles⟩ :=
    placed_by_name (weight (.block 1 11 .two 0))
      (weight (.block 11 1 .two 0)) ⟨"."⟩
  have hne : weight (.block 1 11 .two 0) ≠ weight (.block 11 1 .two 0) := by
    decide
  have hfile : FileTree.empty.file? (DirectoryStore.path ⟨"."⟩
      (weight (.block 1 11 .two 0)).name)
        = some (2, (weight (.block 1 11 .two 0)).name) := by
    decide +kernel
  obtain ⟨hdirectory, -, hown⟩ := hfiles FileTree.empty _ hfile
  exact ⟨_, _, rfl, rfl, fun h => hne (hname.1 h), hplain, hfile, hdirectory,
    fun h => hne (hown h)⟩

end BlobKey

end FireNet
