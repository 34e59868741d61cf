import Mathlib.Data.List.Induction
import RequestScript.Glob
import RequestScript.Proofs.Files.Directories
import RequestScript.Proofs.Text.Cuts
import RequestScript.Proofs.Writes

/-!
# Well-formed trees

In the tree of a file system no place is listed twice, every name is one that an entry can have,
and whatever stands somewhere stands in a directory.  In such a tree the names below a directory
lead there: what is listed below a path is found under the path continued by its name.

Main results:

- Definition {lit}`FileTree.WellFormed`: the trees of file systems.
- Theorem {lit}`WellFormed.entryAt_of_mem_children` and theorem
  {lit}`WellFormed.of_mem_directoriesBelow`: what listing a directory says.
- Theorem {lit}`WellFormed.walk_way`: the way down to a directory can be followed.
- Definition {lit}`FileTree.Reaches`: a path that leads to a directory but for its length.
-/

namespace RequestScript

namespace FileTree

variable {tree : FileTree} {here place : Location} {path : Path}

/-! ## Names -/

/-- A name that an entry can have: a step of a path that does not lead upward, can be told to the
file system, and is not too long. -/
structure IsEntryName (name : Text) : Prop extends Path.IsStep name where
  ne_upward : name ≠ upward
  usable : unusable? name = none
  size : octetCount name ≤ maxNameSize

theorem isEntryName_iff {name : Text} :
    IsEntryName name ↔ name ≠ [] ∧ name ≠ ['.'] ∧ '/' ∉ name ∧ name ≠ upward ∧
      unusable? name = none ∧ octetCount name ≤ maxNameSize := by
  constructor
  · intro h
    exact ⟨h.ne_nil, h.ne_dot, h.slash_not_mem, h.ne_upward, h.usable, h.size⟩
  · rintro ⟨hnil, hdot, hslash, hupward, husable, hsize⟩
    exact ⟨⟨hnil, hdot, hslash⟩, hupward, husable, hsize⟩

instance (name : Text) : Decidable (IsEntryName name) :=
  decidable_of_iff _ isEntryName_iff.symm

/-- Names that do not lead upward lead further down. -/
theorem foldl_follow {names : List Text} (h : ∀ name ∈ names, IsEntryName name)
    (here : Location) : names.foldl follow here = here ++ names := by
  induction names generalizing here with
  | nil => simp
  | cons name names ih =>
    have hname := h name List.mem_cons_self
    rw [List.foldl_cons, follow, if_neg hname.ne_upward,
      ih fun other hother => h other (List.mem_cons_of_mem name hother)]
    simp

/-- More names lead on from the destination. -/
theorem destination_append (tree : FileTree) (path : Path) (names : List Text) :
    tree.destination { path with parts := path.parts ++ names } =
      names.foldl follow (tree.destination path) := by
  rw [destination, destination, List.foldl_append]
  rfl

/-- A child with the name of an entry stands directly below. -/
theorem destination_child {name : Text} (h : IsEntryName name) :
    tree.destination (path.child name) = tree.destination path ++ [name] := by
  rw [Path.child, destination_append, List.foldl_cons, List.foldl_nil, follow,
    if_neg h.ne_upward]

/-- The text of a path can be told to the file system when its names can. -/
theorem unusable?_text_eq_none_iff :
    unusable? path.text = none ↔ ∀ name ∈ path.parts, unusable? name = none := by
  have hslash : (Text.isStandIn '/' && !isOctet '/') = false ∧ '/' ≠ '\x00' := by decide
  have hdot : (Text.isStandIn '.' && !isOctet '.') = false ∧ '.' ≠ '\x00' := by decide
  have hanchor : ∀ c ∈ path.anchor.text, c = '/' := by
    cases path.anchor with
    | workingDirectory => simp [Anchor.text]
    | root => simp [Anchor.text]
    | doubleRoot => simp [Anchor.text]
  simp only [unusable?_eq_none_iff]
  constructor
  · intro h name hname c hc
    by_cases hsep : c = '/'
    · rw [hsep]
      exact hslash
    · apply h
      have hmem : c ∈ path.anchor.text ++ Text.join ['/'] path.parts :=
        List.mem_append_right _ ((Text.mem_join (by simpa using hsep) _).mpr ⟨name, hname, hc⟩)
      unfold Path.text
      dsimp only
      rwa [if_neg (by simpa using List.ne_nil_of_mem hmem)]
  · intro h c hc
    unfold Path.text at hc
    dsimp only at hc
    split at hc
    · rw [List.mem_singleton.mp hc]
      exact hdot
    · by_cases hsep : c = '/'
      · rw [hsep]
        exact hslash
      · rcases List.mem_append.mp hc with hfirst | hrest
        · exact absurd (hanchor c hfirst) hsep
        · rcases (Text.mem_join (by simpa using hsep) _).mp hrest with ⟨name, hname, hin⟩
          exact h name hname c hin

/-! ## Trees -/

/-- A tree that a file system can have. -/
structure WellFormed (tree : FileTree) : Prop where
  nodup : tree.entries.keys.Nodup
  rooted : ∀ place ∈ tree.entries.keys, place ≠ []
  names : ∀ place ∈ tree.entries.keys, ∀ name ∈ place, IsEntryName name
  above : ∀ place ∈ tree.entries.keys, tree.entryAt place.dropLast = some .directory

theorem wellFormed_iff :
    tree.WellFormed ↔ tree.entries.keys.Nodup ∧
      ∀ place ∈ tree.entries.keys, place ≠ [] ∧ (∀ name ∈ place, IsEntryName name) ∧
        tree.entryAt place.dropLast = some .directory := by
  constructor
  · intro h
    exact ⟨h.nodup, fun place hplace =>
      ⟨h.rooted place hplace, h.names place hplace, h.above place hplace⟩⟩
  · rintro ⟨hnodup, hplaces⟩
    exact ⟨hnodup, fun place hplace => (hplaces place hplace).1,
      fun place hplace => (hplaces place hplace).2.1,
      fun place hplace => (hplaces place hplace).2.2⟩

instance (tree : FileTree) : Decidable tree.WellFormed :=
  decidable_of_iff _ wellFormed_iff.symm

namespace WellFormed

variable (h : tree.WellFormed)
include h

/-- What is listed stands at its place. -/
theorem entryAt_of_mem {entry : Entry} (hmem : (place, entry) ∈ tree.entries.entries) :
    tree.entryAt place = some entry := by
  rw [entryAt, if_neg (h.rooted place (List.mem_map_of_mem hmem))]
  exact OrderedMap.get?_of_mem_entries h.nodup hmem

/-- What is listed below a place stands there under its name. -/
theorem entryAt_of_mem_children {name : Text} {entry : Entry}
    (hmem : (name, entry) ∈ tree.children here) :
    tree.entryAt (here ++ [name]) = some entry ∧ IsEntryName name := by
  rw [children, List.mem_filterMap] at hmem
  rcases hmem with ⟨⟨other, found⟩, hfound, hchild⟩
  dsimp only at hchild
  split at hchild
  · rename_i last hlast
    split at hchild
    · rename_i hbelow
      cases hchild
      have hother : other = here ++ [name] := by
        rw [← hbelow]
        exact (List.dropLast_append_getLast? name hlast).symm
      subst hother
      refine ⟨h.entryAt_of_mem hfound, ?_⟩
      exact h.names _ (List.mem_map_of_mem hfound) name (by simp)
    · cases hchild
  · cases hchild

/-- A way down from a place leads to a directory. -/
theorem of_mem_directoriesBelow {way : Location} (hmem : way ∈ tree.directoriesBelow here) :
    way = [] ∨
      (tree.entryAt (here ++ way) = some .directory ∧ ∀ name ∈ way, IsEntryName name) := by
  rw [directoriesBelow, List.mem_cons, List.mem_filterMap] at hmem
  rcases hmem with rfl | ⟨⟨other, found⟩, hfound, hway⟩
  · exact Or.inl rfl
  · right
    dsimp only at hway
    split at hway
    · rename_i hbelow
      cases hway
      simp only [Bool.and_eq_true, decide_eq_true_eq] at hbelow
      rcases List.isPrefixOf_iff_prefix.mp hbelow.1.2 with ⟨way, rfl⟩
      rw [List.drop_left]
      refine ⟨?_, fun name hname => ?_⟩
      · rw [← hbelow.1.1]
        exact h.entryAt_of_mem hfound
      · exact h.names _ (List.mem_map_of_mem hfound) name (List.mem_append_right here hname)
    · cases hway

/-- Whatever stands at a place but the root stands in a directory. -/
theorem entryAt_dropLast {entry : Entry} (hroot : place ≠ [])
    (hentry : tree.entryAt place = some entry) :
    tree.entryAt place.dropLast = some .directory := by
  rw [entryAt, if_neg hroot] at hentry
  exact h.above place (List.mem_map_of_mem (OrderedMap.mem_entries_of_get? hentry))

/-- The way down to a directory can be followed. -/
theorem walk_way {way : Location} (hnames : ∀ name ∈ way, IsEntryName name)
    (hentry : tree.entryAt (here ++ way) = some .directory) :
    tree.walk here way = .ok (here ++ way) := by
  induction way using List.reverseRecOn with
  | nil =>
    rw [List.append_nil]
    rfl
  | append_singleton way name ih =>
    have hname := hnames name (by simp)
    have habove : tree.entryAt (here ++ way) = some .directory := by
      have hlast := h.entryAt_dropLast (by simp) hentry
      rwa [← List.append_assoc, List.dropLast_concat] at hlast
    rw [walk_append, ih (fun other hother => hnames other (List.mem_append_left _ hother)) habove]
    dsimp only
    rw [walk_cons_of_directory habove, if_neg (Nat.not_lt.mpr hname.size), follow,
      if_neg hname.ne_upward, ← List.append_assoc]
    rfl

end WellFormed

/-! ## Paths that reach a directory -/

/-- A path leads to a directory at a place, if it is not too long. -/
structure Reaches (tree : FileTree) (path : Path) (place : Location) : Prop where
  usable : ∀ name ∈ path.parts, unusable? name = none
  walk : tree.walk (tree.start path) path.parts = .ok place
  directory : tree.entryAt place = some .directory

namespace Reaches

/-- A path that leads to a directory reaches its destination. -/
theorem of_hasDirectory (h : tree.HasDirectory path) :
    tree.Reaches path (tree.destination path) := by
  rcases h with ⟨place, hlocate, hentry⟩
  rw [destination_of_locate hlocate]
  rcases locate_eq_ok.mp hlocate with ⟨husable, -, hwalk⟩
  exact ⟨unusable?_text_eq_none_iff.mp husable, hwalk, hentry⟩

variable (h : tree.Reaches path place)
include h

/-- A path that reaches a place has it for its destination. -/
theorem destination_eq : tree.destination path = place :=
  (eq_foldl_of_walk h.walk).symm

/-- A path that reaches a place leads nowhere else. -/
theorem eq_of_locate {there : Location} (hlocate : tree.locate path = .ok there) :
    there = place := by
  rw [← h.destination_eq, destination_of_locate hlocate]

/-- Such a path leads to its place, or is too long. -/
theorem locate : tree.locate path = .ok place ∨ tree.locate path = .error (.refused .tooLong path) := by
  rw [locate_eq, unusable?_text_eq_none_iff.mpr h.usable]
  dsimp only
  split
  · exact Or.inr rfl
  · rw [h.walk]
    exact Or.inl rfl

/-- Such a path goes on to the directories below its place. -/
theorem append (hwf : tree.WellFormed) {way : Location} (hnames : ∀ name ∈ way, IsEntryName name)
    (hentry : tree.entryAt (place ++ way) = some .directory) :
    tree.Reaches { path with parts := path.parts ++ way } (place ++ way) := by
  constructor
  · intro name hname
    rcases List.mem_append.mp hname with hold | hnew
    · exact h.usable name hold
    · exact (hnames name hnew).usable
  · have hstart : tree.start { path with parts := path.parts ++ way } = tree.start path := rfl
    rw [hstart, walk_append, h.walk]
    exact hwf.walk_way hnames hentry
  · exact hentry

end Reaches
end FileTree
end RequestScript
