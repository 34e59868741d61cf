import Mathlib.Data.List.Basic
import RequestScript.Proofs.Files

/-!
# Trees that grow

Whatever is made and written adds to a tree: a directory stays a directory, and a file stays a
file, though it may hold something else.  So a path that leads somewhere leads there later too,
and what is refused is refused again, unless a name was missing and has come in since.

Main results:

- Definition {lit}`FileTree.Grows`: one tree has grown into another.
- Theorem {lit}`Grows.locate`: where a path leads, and why it leads nowhere, stays.
- Definition {lit}`FileTree.GainsDirectories`: it has grown by directories only.
- Definition {lit}`FileTree.destination`: the place that a path means, whatever the tree holds.
- Theorem {lit}`Grows.read_eq_ok`: a file that was not written to reads as it did.
-/

namespace RequestScript

namespace FileTree

variable {tree later last : FileTree} {place : Location} {path : Path}

/-! ## Where names lead -/

/-- The place that a name leads to. -/
def follow (here : Location) (name : Text) : Location :=
  if name = upward then here.dropLast else here ++ [name]

/-- The place that a path means, whether it can be reached or not. -/
def destination (tree : FileTree) (path : Path) : Location :=
  path.parts.foldl follow (tree.start path)

/-- From a directory names lead on, unless the first one is too long. -/
theorem walk_cons_of_directory {here : Location} (h : tree.entryAt here = some .directory)
    (name : Text) (names : List Text) :
    tree.walk here (name :: names) =
      if maxNameSize < octetCount name then .error .tooLong
      else tree.walk (follow here name) names := by
  rw [walk, h]
  rfl

/-- From a file no name leads on. -/
theorem walk_cons_of_file {here : Location} {octets : List UInt8}
    (h : tree.entryAt here = some (.file octets)) (name : Text) (names : List Text) :
    tree.walk here (name :: names) = .error .notDirectory := by
  rw [walk, h]

/-- From where nothing stands no name leads on. -/
theorem walk_cons_of_none {here : Location} (h : tree.entryAt here = none) (name : Text)
    (names : List Text) : tree.walk here (name :: names) = .error .missing := by
  rw [walk, h]

/-- Names that can be followed lead where they mean to. -/
theorem eq_foldl_of_walk {here there : Location} {names : List Text}
    (h : tree.walk here names = .ok there) : there = names.foldl follow here := by
  induction names generalizing here with
  | nil =>
    rw [walk] at h
    exact (Except.ok.inj h).symm
  | cons name names ih =>
    cases hentry : tree.entryAt here with
    | none =>
      rw [walk_cons_of_none hentry] at h
      cases h
    | some entry =>
      cases entry with
      | file octets =>
        rw [walk_cons_of_file hentry] at h
        cases h
      | directory =>
        rw [walk_cons_of_directory hentry] at h
        split at h
        · cases h
        · rw [List.foldl_cons]
          exact ih h

/-- Names are followed up to any of them, and then on. -/
theorem walk_append (tree : FileTree) (here : Location) (names others : List Text) :
    tree.walk here (names ++ others) =
      match tree.walk here names with
      | .ok there => tree.walk there others
      | .error reason => .error reason := by
  induction names generalizing here with
  | nil => rfl
  | cons name names ih =>
    rw [List.cons_append]
    cases hentry : tree.entryAt here with
    | none => rw [walk_cons_of_none hentry, walk_cons_of_none hentry]
    | some entry =>
      cases entry with
      | file octets => rw [walk_cons_of_file hentry, walk_cons_of_file hentry]
      | directory =>
        rw [walk_cons_of_directory hentry, walk_cons_of_directory hentry]
        split
        · rfl
        · exact ih _

/-- A path that leads to a place means this place. -/
theorem destination_of_locate (h : tree.locate path = .ok place) :
    tree.destination path = place :=
  (eq_foldl_of_walk (locate_eq_ok.mp h).2.2).symm

/-! ## Growth -/

/-- A tree has grown into a later one: directories and files are still there, and no place has
come to be listed twice. -/
structure Grows (tree later : FileTree) : Prop where
  workingDirectory : later.workingDirectory = tree.workingDirectory
  directory : ∀ {place}, tree.entryAt place = some .directory →
    later.entryAt place = some .directory
  file : ∀ {place octets}, tree.entryAt place = some (.file octets) →
    ∃ others, later.entryAt place = some (.file others)
  nodup : tree.entries.keys.Nodup → later.entries.keys.Nodup

namespace Grows

theorem refl (tree : FileTree) : tree.Grows tree :=
  ⟨rfl, fun h => h, fun h => ⟨_, h⟩, fun h => h⟩

/-- A tree that has grown twice has grown. -/
theorem trans (h : tree.Grows later) (h' : later.Grows last) : tree.Grows last := by
  constructor
  · rw [h'.workingDirectory, h.workingDirectory]
  · intro place hplace
    exact h'.directory (h.directory hplace)
  · intro place octets hplace
    rcases h.file hplace with ⟨others, hothers⟩
    exact h'.file hothers
  · intro hnodup
    exact h'.nodup (h.nodup hnodup)

/-- A tree grows by a directory where nothing stood. -/
theorem put_directory (h : tree.entryAt place = none) : tree.Grows (tree.put place .directory) := by
  constructor
  · rfl
  · intro other hother
    have hne : other ≠ place := by
      rintro rfl
      rw [h] at hother
      cases hother
    rw [entryAt_put_of_ne tree hne, hother]
  · intro other octets hother
    have hne : other ≠ place := by
      rintro rfl
      rw [h] at hother
      cases hother
    exact ⟨octets, by rw [entryAt_put_of_ne tree hne, hother]⟩
  · intro hnodup
    exact OrderedMap.nodup_keys_insert hnodup place .directory

/-- A tree grows by a file where no directory stands. -/
theorem put_file (h : tree.entryAt place ≠ some .directory) (octets : List UInt8) :
    tree.Grows (tree.put place (.file octets)) := by
  have hroot : place ≠ [] := by
    rintro rfl
    exact h (entryAt_root tree)
  constructor
  · rfl
  · intro other hother
    have hne : other ≠ place := by
      rintro rfl
      exact h hother
    rw [entryAt_put_of_ne tree hne, hother]
  · intro other others hother
    by_cases hne : other = place
    · subst hne
      exact ⟨octets, entryAt_put_self tree hroot (.file octets)⟩
    · exact ⟨others, by rw [entryAt_put_of_ne tree hne, hother]⟩
  · intro hnodup
    exact OrderedMap.nodup_keys_insert hnodup place (.file octets)

variable (h : tree.Grows later)
include h

/-- A tree that has grown has the same working directory, so paths start where they did. -/
theorem start (path : Path) : later.start path = tree.start path := by
  rw [FileTree.start, FileTree.start, h.workingDirectory]

/-- Names lead to the same place, whatever stands on the way. -/
theorem destination (path : Path) : later.destination path = tree.destination path := by
  rw [FileTree.destination, FileTree.destination, h.start]

/-- Names lead where they did, and what stops them still does, unless it was that a name was
missing. -/
theorem walk {here : Location} {names : List Text} {result : Except Refusal Location}
    (hwalk : tree.walk here names = result) (hfound : result ≠ .error .missing) :
    later.walk here names = result := by
  induction names generalizing here with
  | nil => exact hwalk
  | cons name names ih =>
    cases hentry : tree.entryAt here with
    | none =>
      rw [walk_cons_of_none hentry] at hwalk
      exact absurd hwalk.symm hfound
    | some entry =>
      cases entry with
      | file octets =>
        rcases h.file hentry with ⟨others, hothers⟩
        rw [walk_cons_of_file hentry] at hwalk
        rw [walk_cons_of_file hothers, hwalk]
      | directory =>
        rw [walk_cons_of_directory hentry] at hwalk
        rw [walk_cons_of_directory (h.directory hentry)]
        split at hwalk
        · rename_i hlong
          rw [if_pos hlong, hwalk]
        · rename_i hfits
          rw [if_neg hfits]
          exact ih hwalk

/-- A path leads where it did, and leads nowhere for the reason it did, unless it was that a
name was missing. -/
theorem locate {result : Except Fault Location} (hlocate : tree.locate path = result)
    (hfound : result ≠ .error (.refused .missing path)) : later.locate path = result := by
  rw [locate_eq] at hlocate ⊢
  rw [h.start]
  cases hunusable : unusable? path.text with
  | some fault =>
    rw [hunusable] at hlocate
    exact hlocate
  | none =>
    rw [hunusable] at hlocate
    dsimp only at hlocate ⊢
    by_cases hlong : maxPathSize < octetCount path.text
    · rw [if_pos hlong] at hlocate ⊢
      exact hlocate
    · rw [if_neg hlong] at hlocate ⊢
      cases hwalk : tree.walk (tree.start path) path.parts with
      | ok there =>
        rw [h.walk hwalk (by simp), ← hlocate, hwalk]
      | error reason =>
        have hreason : reason ≠ .missing := by
          rintro rfl
          rw [hwalk] at hlocate
          exact hfound hlocate.symm
        rw [h.walk hwalk (by simpa using hreason), ← hlocate, hwalk]

/-- A path that leads somewhere leads there when the tree has grown. -/
theorem locate_eq_ok (hlocate : tree.locate path = .ok place) : later.locate path = .ok place :=
  h.locate hlocate (by simp)

end Grows

/-! ## Growth by directories -/

/-- A tree has grown by directories only: nothing that stood somewhere has changed. -/
structure GainsDirectories (tree later : FileTree) : Prop extends tree.Grows later where
  kept : ∀ place, later.entryAt place = tree.entryAt place ∨
    (tree.entryAt place = none ∧ later.entryAt place = some .directory)

namespace GainsDirectories

theorem refl (tree : FileTree) : tree.GainsDirectories tree :=
  ⟨.refl tree, fun _ => Or.inl rfl⟩

theorem trans (h : tree.GainsDirectories later) (h' : later.GainsDirectories last) :
    tree.GainsDirectories last := by
  refine ⟨h.toGrows.trans h'.toGrows, fun place => ?_⟩
  rcases h.kept place with hsame | ⟨hnone, hnew⟩
  · rw [← hsame]
    exact h'.kept place
  · exact Or.inr ⟨hnone, h'.directory hnew⟩

theorem put (h : tree.entryAt place = none) :
    tree.GainsDirectories (tree.put place .directory) := by
  refine ⟨.put_directory h, fun other => ?_⟩
  by_cases hother : other = place
  · subst hother
    have hroot : other ≠ [] := by
      rintro rfl
      cases h
    exact Or.inr ⟨h, entryAt_put_self tree hroot .directory⟩
  · exact Or.inl (entryAt_put_of_ne tree hother .directory)

end GainsDirectories

/-! ## Reading -/

/-- A file can be read where a path leads to one. -/
theorem read_eq_ok {octets : List UInt8} :
    tree.read path = .ok octets ↔
      ∃ place, tree.locate path = .ok place ∧ tree.entryAt place = some (.file octets) := by
  cases hlocate : tree.locate path with
  | error fault => simp [read, hlocate, bind, Except.bind]
  | ok place =>
    cases hentry : tree.entryAt place with
    | none => simp [read, hlocate, bind, Except.bind, hentry]
    | some entry =>
      cases entry with
      | directory => simp [read, hlocate, bind, Except.bind, hentry]
      | file others => simp [read, hlocate, bind, Except.bind, hentry]

/-- A file can still be read. -/
theorem Grows.exists_read (h : tree.Grows later) {octets : List UInt8}
    (hread : tree.read path = .ok octets) : ∃ others, later.read path = .ok others := by
  rcases FileTree.read_eq_ok.mp hread with ⟨place, hlocate, hentry⟩
  rcases h.file hentry with ⟨others, hothers⟩
  exact ⟨others, FileTree.read_eq_ok.mpr ⟨place, h.locate_eq_ok hlocate, hothers⟩⟩

/-- A file reads as it did while what stands at its place is the same. -/
theorem Grows.read_eq_ok (h : tree.Grows later) {octets : List UInt8}
    (hread : tree.read path = .ok octets)
    (hsame : later.entryAt (tree.destination path) = tree.entryAt (tree.destination path)) :
    later.read path = .ok octets := by
  rcases FileTree.read_eq_ok.mp hread with ⟨place, hlocate, hentry⟩
  rw [destination_of_locate hlocate, hentry] at hsame
  exact FileTree.read_eq_ok.mpr ⟨place, h.locate_eq_ok hlocate, hsame⟩

end FileTree
end RequestScript
