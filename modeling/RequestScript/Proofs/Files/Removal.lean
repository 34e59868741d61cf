import RequestScript.Proofs.Files.Storing
import RequestScript.Proofs.Writes

/-!
# Trees without a file

When a file is removed, paths that do not pass its place lead where they did.  So whatever is
made or written along such paths can be made and written without the file as well, and the order
does not matter: removing the file and then writing leaves the tree that writing and then
removing leaves.

Main results:

- Definition {lit}`FileTree.Passes`: a place is where a path leads, or on the way there.
- Theorem {lit}`FileTree.entry?_removeAt`: what paths lead to without the file.
- Theorem {lit}`FileTree.makeDirectories_removeAt` and theorem {lit}`Output.write_removeAt`:
  making directories and storing commands without the file.
-/

namespace RequestScript

namespace FileTree

variable {tree later : FileTree} {place other here : Location} {path : Path}

/-! ## Places on the way -/

/-- The places on the way of names, from where they are followed to where they lead. -/
def route (here : Location) : List Text → List Location
  | [] => [here]
  | name :: names => here :: route (follow here name) names

/-- A place is where a path leads, or on the way there. -/
def Passes (tree : FileTree) (path : Path) (place : Location) : Prop :=
  place ∈ route (tree.start path) path.parts

instance (tree : FileTree) (path : Path) (place : Location) :
    Decidable (tree.Passes path place) :=
  inferInstanceAs (Decidable (place ∈ route (tree.start path) path.parts))

/-- More names lead past more places. -/
theorem route_subset_append (here : Location) (names others : List Text) :
    route here names ⊆ route here (names ++ others) := by
  induction names generalizing here with
  | nil =>
    intro place hplace
    rw [List.mem_singleton.mp hplace]
    cases others with
    | nil => exact List.mem_singleton_self here
    | cons name others => exact List.mem_cons_self
  | cons name names ih =>
    intro place hplace
    rcases List.mem_cons.mp hplace with rfl | hrest
    · exact List.mem_cons_self
    · exact List.mem_cons_of_mem here (ih (follow here name) hrest)

/-- The route of names holds the place that they lead to. -/
theorem foldl_mem_route (here : Location) (names : List Text) :
    names.foldl follow here ∈ route here names := by
  induction names generalizing here with
  | nil => exact List.mem_singleton_self here
  | cons name names ih => exact List.mem_cons_of_mem here (ih (follow here name))

/-- A path passes the place where it leads. -/
theorem passes_destination (tree : FileTree) (path : Path) :
    tree.Passes path (tree.destination path) :=
  foldl_mem_route _ _

/-- A path passes the places that its parent does. -/
theorem Passes.of_parent (h : tree.Passes path.parent place) : tree.Passes path place := by
  by_cases hnames : path.parts = []
  · have hparent : path.parent = path := by
      rw [Path.parent, hnames]
      cases path
      simp_all
    rwa [hparent] at h
  · rw [Passes, ← List.dropLast_append_getLast hnames]
    exact route_subset_append _ _ _ h

/-- A path passes the same places when the tree has grown. -/
theorem Grows.passes_iff (h : tree.Grows later) : later.Passes path place ↔ tree.Passes path place := by
  rw [Passes, Passes, h.start]

/-! ## Removing what stands at a place -/

/-- Without a place everything else stands where it did. -/
theorem entryAt_removeAt (hroot : place ≠ []) (other : Location) :
    (tree.removeAt place).entryAt other = if other = place then none else tree.entryAt other := by
  by_cases hempty : other = []
  · subst hempty
    rw [if_neg (Ne.symm hroot)]
    rfl
  · rw [entryAt, entryAt, if_neg hempty, if_neg hempty]
    exact OrderedMap.get?_erase tree.entries place other

/-- At other places there is the same as before. -/
theorem entryAt_removeAt_of_ne (hroot : place ≠ []) (h : other ≠ place) :
    (tree.removeAt place).entryAt other = tree.entryAt other := by
  rw [entryAt_removeAt hroot, if_neg h]

/-- To put something at a place and to take another one away can be done in any order. -/
theorem put_removeAt (h : other ≠ place) (entry : Entry) :
    (tree.removeAt place).put other entry = (tree.put other entry).removeAt place :=
  congrArg (FileTree.mk · tree.workingDirectory) (OrderedMap.insert_erase tree.entries h entry)

/-! ## Paths past the place -/

/-- Names that do not lead past a place lead on without it as they did. -/
theorem walk_removeAt_of_not_mem (hroot : place ≠ []) {names : List Text}
    (h : place ∉ route here names) : (tree.removeAt place).walk here names = tree.walk here names := by
  induction names generalizing here with
  | nil => rfl
  | cons name names ih =>
    rw [route, List.mem_cons, not_or] at h
    have hentry : (tree.removeAt place).entryAt here = tree.entryAt here :=
      entryAt_removeAt_of_ne hroot (Ne.symm h.1)
    cases hthere : tree.entryAt here with
    | none =>
      rw [hthere] at hentry
      rw [walk_cons_of_none hentry, walk_cons_of_none hthere]
    | some entry =>
      cases entry with
      | file octets =>
        rw [hthere] at hentry
        rw [walk_cons_of_file hentry, walk_cons_of_file hthere]
      | directory =>
        rw [hthere] at hentry
        rw [walk_cons_of_directory hentry, walk_cons_of_directory hthere, ih h.2]

/-- A path that does not pass a place leads where it did. -/
theorem locate_removeAt (hroot : place ≠ []) (h : ¬ tree.Passes path place) :
    (tree.removeAt place).locate path = tree.locate path := by
  have hstart : (tree.removeAt place).start path = tree.start path := rfl
  rw [locate_eq, locate_eq, hstart, walk_removeAt_of_not_mem hroot h]

/-- A directory is ensured alike without a place that its path does not pass. -/
theorem ensureDirectory_removeAt (hroot : place ≠ []) (h : ¬ tree.Passes path place) :
    (tree.removeAt place).ensureDirectory path =
      (tree.ensureDirectory path).map (·.removeAt place) := by
  rw [ensureDirectory_eq, ensureDirectory_eq, locate_removeAt hroot h]
  cases hlocate : tree.locate path with
  | error fault => rfl
  | ok there =>
    have hne : there ≠ place := by
      rintro rfl
      rw [← destination_of_locate hlocate] at h
      exact h (passes_destination tree path)
    dsimp only
    rw [entryAt_removeAt_of_ne hroot hne, put_removeAt hne]
    cases tree.entryAt there with
    | none => rfl
    | some entry =>
      cases entry with
      | directory => rfl
      | file octets => rfl

/-- Directories are made alike without a place that their path does not pass. -/
theorem makeDirectoriesWithin_removeAt (hroot : place ≠ []) (h : ¬ tree.Passes path place)
    (depth : Nat) :
    (tree.removeAt place).makeDirectoriesWithin path depth =
      ((tree.makeDirectoriesWithin path depth).1.removeAt place,
        (tree.makeDirectoriesWithin path depth).2) := by
  induction depth generalizing path with
  | zero => rfl
  | succ depth ih =>
    have hparent : ¬ tree.Passes path.parent place := fun hpasses => h hpasses.of_parent
    rw [makeDirectoriesWithin, makeDirectoriesWithin, ensureDirectory_removeAt hroot h, ih hparent]
    cases hensure : tree.ensureDirectory path with
    | ok made => rfl
    | error fault =>
      dsimp only [Except.map]
      split
      · rename_i hok
        cases hok
      · rcases habove : tree.makeDirectoriesWithin path.parent depth with ⟨above, fault | _⟩
        · have hpast : ¬ above.Passes path place := by
            rwa [(makeDirectoriesWithin_gains habove).passes_iff]
          dsimp only
          rw [ensureDirectory_removeAt hroot hpast]
          cases above.ensureDirectory path with
          | ok made => rfl
          | error fault => rfl
        · rfl
      · rfl

/-- Directories can be made without a file that is not on their way. -/
theorem makeDirectories_removeAt (hroot : place ≠ []) (h : ¬ tree.Passes path place) :
    (tree.removeAt place).makeDirectories path =
      ((tree.makeDirectories path).1.removeAt place, (tree.makeDirectories path).2) :=
  makeDirectoriesWithin_removeAt hroot h _

/-- A file is written alike without a place that its path does not pass. -/
theorem write_removeAt (hroot : place ≠ []) (h : ¬ tree.Passes path place) (octets : List UInt8) :
    (tree.removeAt place).write path octets = (tree.write path octets).map (·.removeAt place) := by
  rw [write, write, locate_removeAt hroot h]
  cases hlocate : tree.locate path with
  | error fault => rfl
  | ok there =>
    have hne : there ≠ place := by
      rintro rfl
      rw [← destination_of_locate hlocate] at h
      exact h (passes_destination tree path)
    simp only [bind, Except.bind]
    rw [entryAt_removeAt_of_ne hroot hne, put_removeAt hne]
    cases tree.entryAt there with
    | none => rfl
    | some entry =>
      cases entry with
      | directory => rfl
      | file others => rfl

/-! ## Other paths -/

/-- Without a file, names lead where they did, but where the file was on their way. -/
theorem walk_removeAt (hroot : place ≠ []) (hplace : tree.entryAt place ≠ some .directory)
    (here : Location) (names : List Text) :
    (tree.removeAt place).walk here names = tree.walk here names ∨
      (tree.walk here names = .error .notDirectory ∧
        (tree.removeAt place).walk here names = .error .missing) := by
  induction names generalizing here with
  | nil => exact Or.inl rfl
  | cons name names ih =>
    by_cases hhere : here = place
    · subst hhere
      have hgone : (tree.removeAt here).entryAt here = none := by
        rw [entryAt_removeAt hroot, if_pos rfl]
      cases hentry : tree.entryAt here with
      | none =>
        left
        rw [walk_cons_of_none hgone, walk_cons_of_none hentry]
      | some entry =>
        cases entry with
        | directory => exact absurd hentry hplace
        | file octets =>
          right
          exact ⟨walk_cons_of_file hentry name names, walk_cons_of_none hgone name names⟩
    · have hsame : (tree.removeAt place).entryAt here = tree.entryAt here :=
        entryAt_removeAt_of_ne hroot hhere
      cases hentry : tree.entryAt here with
      | none =>
        rw [hentry] at hsame
        left
        rw [walk_cons_of_none hsame, walk_cons_of_none hentry]
      | some entry =>
        rw [hentry] at hsame
        cases entry with
        | file octets =>
          left
          rw [walk_cons_of_file hsame, walk_cons_of_file hentry]
        | directory =>
          rw [walk_cons_of_directory hsame, walk_cons_of_directory hentry]
          split
          · exact Or.inl rfl
          · exact ih (follow here name)

/-- Without a file, paths lead where they did, but where the file was on their way. -/
theorem locate_removeAt_or (hroot : place ≠ []) (hplace : tree.entryAt place ≠ some .directory)
    (path : Path) :
    (tree.removeAt place).locate path = tree.locate path ∨
      (tree.locate path = .error (.refused .notDirectory path) ∧
        (tree.removeAt place).locate path = .error (.refused .missing path)) := by
  have hstart : (tree.removeAt place).start path = tree.start path := rfl
  rw [locate_eq, locate_eq, hstart]
  cases unusable? path.text with
  | some fault => exact Or.inl rfl
  | none =>
    dsimp only
    split
    · exact Or.inl rfl
    · rcases walk_removeAt hroot hplace (tree.start path) path.parts with hsame | ⟨hold, hnew⟩
      · left
        rw [hsame]
      · right
        rw [hold, hnew]
        exact ⟨rfl, rfl⟩

/-- A path that leads somewhere does so without what is no directory. -/
theorem locate_removeAt_of_ok (hroot : place ≠ []) (hplace : tree.entryAt place ≠ some .directory)
    (h : tree.locate path = .ok other) : (tree.removeAt place).locate path = .ok other := by
  rcases locate_removeAt_or hroot hplace path with hsame | ⟨hold, -⟩
  · rw [hsame, h]
  · rw [h] at hold
    cases hold

/-- Without a file, paths lead to what they did, and the path of the file leads to nothing. -/
theorem entry?_removeAt (hroot : place ≠ []) (hplace : tree.entryAt place ≠ some .directory)
    (path : Path) :
    entry? (tree.removeAt place) path =
      (tree.entry? path).map fun entry =>
        if tree.destination path = place then none else entry := by
  unfold entry?
  rcases locate_removeAt_or hroot hplace path with hsame | ⟨hold, hnew⟩
  · rw [hsame]
    cases hlocate : tree.locate path with
    | ok there =>
      dsimp only [Except.map]
      rw [entryAt_removeAt hroot, destination_of_locate hlocate]
    | error fault =>
      cases fault with
      | refused reason there => cases reason <;> simp [Except.map]
      | unusablePath => simp [Except.map]
      | unencodable here run => simp [Except.map]
  · rw [hold, hnew]
    simp [Except.map]

/-- A file that can be read can be removed. -/
theorem remove_of_read {octets : List UInt8} (h : tree.read path = .ok octets) :
    tree.remove path = .ok (tree.removeAt (tree.destination path)) := by
  rcases read_eq_ok.mp h with ⟨there, hlocate, hentry⟩
  rw [destination_of_locate hlocate, remove, hlocate]
  simp only [bind, Except.bind]
  rw [hentry]

/-- Other files read as they do. -/
theorem read_removeAt (hroot : place ≠ []) (hplace : tree.entryAt place ≠ some .directory)
    {octets : List UInt8} (h : tree.read path = .ok octets) (hne : tree.destination path ≠ place) :
    (tree.removeAt place).read path = .ok octets := by
  rcases read_eq_ok.mp h with ⟨there, hlocate, hentry⟩
  rw [destination_of_locate hlocate] at hne
  apply read_eq_ok.mpr
  refine ⟨there, locate_removeAt_of_ok hroot hplace hlocate, ?_⟩
  rw [entryAt_removeAt_of_ne hroot hne, hentry]

end FileTree

/-! ## Storing commands -/

/-- Commands can be stored without a file that is not on their way. -/
theorem Output.write_removeAt {output : Output} {tree : FileTree} {source : Path}
    {place : Location} (hroot : place ≠ []) (h : ¬ tree.Passes (output.path source) place)
    (commands : List Text) :
    output.write (tree.removeAt place) source commands =
      ((output.write tree source commands).1.removeAt place,
        (output.write tree source commands).2) := by
  have hparent : ¬ tree.Passes (output.path source).parent place := fun hpasses =>
    h hpasses.of_parent
  unfold write
  dsimp only
  rw [FileTree.makeDirectories_removeAt hroot hparent]
  rcases hmake : tree.makeDirectories (output.path source).parent with ⟨made, fault | _⟩
  · have hpast : ¬ made.Passes (output.path source) place := by
      rwa [(FileTree.makeDirectories_gains hmake).passes_iff]
    dsimp only
    rw [FileTree.write_removeAt hroot hpast]
    cases made.write (output.path source) (Utf8.encode (Command.format commands)) with
    | error fault => rfl
    | ok written => rfl
  · rfl

end RequestScript
