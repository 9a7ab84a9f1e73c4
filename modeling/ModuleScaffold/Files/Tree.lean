import ModuleScaffold.Text.Basic

/-!
# File trees

A file tree says what is found at every location, where a location is the list
of names that lead to it from the root.  It is seen through `FileTree.get?`:
the root is a directory, `put` changes one location and `erase` empties one, and
no other location notices.
-/

namespace ModuleScaffold

/-- The names that lead from the root to a place in a file tree, without links
and without `..`. -/
abbrev Location := List Text

/-- What is found at a location. -/
inductive Entry where
  | directory
  /-- A file with its bytes and its permission bits. -/
  | file (bytes : ByteArray) (permissions : Nat)
  /-- A symbolic link to a written path. -/
  | link (target : Text)

instance : DecidableEq Entry
  | .directory, .directory => isTrue rfl
  | .file bytes permissions, .file bytes' permissions' =>
    decidable_of_iff (bytes.data = bytes'.data ∧ permissions = permissions')
      (by rw [Entry.file.injEq, ByteArray.ext_iff])
  | .link target, .link target' =>
    decidable_of_iff (target = target') (by rw [Entry.link.injEq])
  | .directory, .file .. | .directory, .link .. | .file .., .directory
  | .file .., .link .. | .link .., .directory | .link .., .file .. =>
    isFalse nofun

/-- The entries of a file system by their locations.  The root has none. -/
structure FileTree where
  /-- Locations below the root with what is found there. -/
  entries : List (Location × Entry)

namespace FileTree

/-- The tree with nothing below the root. -/
def empty : FileTree := ⟨[]⟩

/-- What is found at a location. -/
def get? (tree : FileTree) (place : Location) : Option Entry :=
  if place = [] then some .directory else tree.entries.lookup place

/-- The tree without what was found at a location. -/
def erase (tree : FileTree) (place : Location) : FileTree :=
  ⟨tree.entries.filter fun found => found.1 != place⟩

/-- The tree with an entry at a location, in place of what was found there. -/
def put (tree : FileTree) (place : Location) (entry : Entry) : FileTree :=
  ⟨(place, entry) :: (tree.erase place).entries⟩

/-- The tree without a location and everything below it. -/
def prune (tree : FileTree) (place : Location) : FileTree :=
  ⟨tree.entries.filter fun found => !place.isPrefixOf found.1⟩

/-- The entries strictly below a location, by the names that lead on from
there. -/
def below (tree : FileTree) (place : Location) : List (Location × Entry) :=
  tree.entries.filterMap fun (location, entry) =>
    if place.isPrefixOf location && location.length != place.length then
      some (location.drop place.length, entry)
    else
      none

theorem lookup_filter_ne (entries : List (Location × Entry))
    (place other : Location) :
    (entries.filter fun found => found.1 != place).lookup other =
      if other = place then none else entries.lookup other := by
  induction entries with
  | nil => simp
  | cons found rest ih =>
    obtain ⟨location, entry⟩ := found
    by_cases hfound : location = place
    · subst hfound
      rw [List.filter_cons_of_neg (by simp), ih]
      by_cases hother : other = location
      · simp [hother]
      · have hbeq : (other == location) = false := by simpa using hother
        simp [hother, List.lookup_cons, hbeq]
    · rw [List.filter_cons_of_pos (by simpa using hfound), List.lookup_cons,
        List.lookup_cons, ih]
      by_cases hother : other = location
      · subst hother
        simp [hfound]
      · have hbeq : (other == location) = false := by simpa using hother
        simp [hbeq]

@[simp] theorem get?_root (tree : FileTree) :
    tree.get? [] = some .directory := rfl

/-- Nothing is found at the erased location, unless it is the root, and every
other location is as it was. -/
theorem get?_erase (tree : FileTree) {place : Location} (hplace : place ≠ [])
    (other : Location) :
    (tree.erase place).get? other =
      if other = place then none else tree.get? other := by
  unfold get? erase
  rw [lookup_filter_ne]
  by_cases hroot : other = []
  · subst hroot
    simp [Ne.symm hplace]
  · simp [hroot]

/-- The entry is found where it was put, and every other location is as it
was. -/
theorem get?_put (tree : FileTree) {place : Location} (hplace : place ≠ [])
    (entry : Entry) (other : Location) :
    (tree.put place entry).get? other =
      if other = place then some entry else tree.get? other := by
  unfold get? put erase
  rw [List.lookup_cons, lookup_filter_ne]
  by_cases hroot : other = []
  · subst hroot
    simp [Ne.symm hplace]
  · by_cases hother : other = place
    · simp [hother, hplace]
    · have hbeq : (other == place) = false := by simpa using hother
      simp [hroot, hother, hbeq]

end FileTree

end ModuleScaffold
