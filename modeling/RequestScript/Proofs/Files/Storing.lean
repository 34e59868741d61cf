import RequestScript.Proofs.Files.Directories

/-!
# Storing commands

To store the commands of a file, the directory for them is made and their file is written.  This
adds directories to the tree and changes at most one place, the one that the path of the commands
means.  When commands are stored a second time, on a tree that has grown since, nothing but the
contents of this place changes, and what could not be done can not be done.

Main results:

- Definition {lit}`Output.Storing`: what can come of storing commands.
- Theorem {lit}`Storing.entryAt`: no other place changes, directories that are made apart.
- Theorem {lit}`Output.write_again_of_ok` and theorem {lit}`Output.write_again_of_error`: storing
  commands a second time.
-/

namespace RequestScript

namespace FileTree

variable {tree later : FileTree} {path : Path}

/-- A file can not be written when its path leads nowhere or to a directory. -/
theorem write_eq_error {octets : List UInt8} {fault : Fault} :
    tree.write path octets = .error fault ↔
      tree.locate path = .error fault ∨
        (tree.HasDirectory path ∧ fault = .refused .isDirectory path) := by
  rw [HasDirectory]
  cases hlocate : tree.locate path with
  | error reason => simp [write, hlocate, bind, Except.bind]
  | ok place =>
    cases hentry : tree.entryAt place with
    | none => simp [write, hlocate, bind, Except.bind, hentry]
    | some entry =>
      cases entry with
      | file others => simp [write, hlocate, bind, Except.bind, hentry]
      | directory => simp [write, hlocate, bind, Except.bind, hentry, eq_comm]

/-- A refusal to write a file stays, unless it was that a name was missing. -/
theorem Grows.write_eq_error (h : tree.Grows later) {octets : List UInt8} {fault : Fault}
    (hfault : tree.write path octets = .error fault)
    (hfound : tree.locate path ≠ .error (.refused .missing path)) :
    later.write path octets = .error fault := by
  rw [FileTree.write_eq_error] at hfault ⊢
  rcases hfault with hlocate | ⟨hdirectory, hreason⟩
  · left
    exact h.locate hlocate (hlocate ▸ hfound)
  · right
    exact ⟨h.hasDirectory hdirectory, hreason⟩

end FileTree

namespace Output

variable {output : Output} {tree after later : FileTree} {source : Path} {commands : List Text}

/-- The octets of a file of commands. -/
def stored (commands : List Text) : List UInt8 :=
  Utf8.encode (Command.format commands)

/-- What can come of storing the commands of a file. -/
inductive Storing (output : Output) (tree : FileTree) (source : Path) (commands : List Text) :
    FileTree → Except FileTree.Fault Path → Prop
  /-- The directory for them can not be made. -/
  | unmade {made : FileTree} {fault : FileTree.Fault}
      (h : tree.makeDirectories (output.path source).parent = (made, some fault)) :
      Storing output tree source commands made (.error fault)
  /-- Their file can not be opened. -/
  | unopened {made : FileTree} {fault : FileTree.Fault}
      (h : tree.makeDirectories (output.path source).parent = (made, none))
      (hopen : made.write (output.path source) (stored commands) = .error fault) :
      Storing output tree source commands made (.error fault)
  /-- They are written. -/
  | written {made : FileTree} {place : Location}
      (h : tree.makeDirectories (output.path source).parent = (made, none))
      (hlocate : made.locate (output.path source) = .ok place)
      (hplace : made.entryAt place ≠ some .directory) :
      Storing output tree source commands (made.put place (.file (stored commands)))
        (.ok (output.path source))

/-- Writing commands goes one of the ways told by {lit}`Storing`. -/
theorem storing_of_write {result : Except FileTree.Fault Path}
    (h : output.write tree source commands = (after, result)) :
    Storing output tree source commands after result := by
  unfold write at h
  dsimp only at h
  rcases hmake : tree.makeDirectories (output.path source).parent with ⟨made, fault | _⟩
  · rw [hmake] at h
    dsimp only at h
    cases hwrite : made.write (output.path source) (stored commands) with
    | error fault =>
      rw [← stored, hwrite] at h
      cases h
      exact .unopened hmake hwrite
    | ok written =>
      rw [← stored, hwrite] at h
      cases h
      cases hlocate : made.locate (output.path source) with
      | error fault => simp [FileTree.write, hlocate, bind, Except.bind] at hwrite
      | ok place =>
        have hplace : made.entryAt place ≠ some .directory := by
          intro hdirectory
          simp [FileTree.write, hlocate, bind, Except.bind, hdirectory] at hwrite
        rw [FileTree.write_eq hlocate hplace] at hwrite
        cases hwrite
        exact .written hmake hlocate hplace
  · rw [hmake] at h
    cases h
    exact .unmade hmake

/-- Commands are not written where their directory can not be made. -/
theorem write_of_makeDirectories {fault : FileTree.Fault}
    (h : tree.makeDirectories (output.path source).parent = (after, some fault)) :
    output.write tree source commands = (after, .error fault) := by
  unfold write
  dsimp only
  rw [h]

/-- Commands are not written where their file can not be written. -/
theorem write_of_write_eq_error {fault : FileTree.Fault}
    (h : tree.makeDirectories (output.path source).parent = (after, none))
    (hwrite : after.write (output.path source) (stored commands) = .error fault) :
    output.write tree source commands = (after, .error fault) := by
  unfold write
  dsimp only
  rw [h]
  dsimp only
  rw [← stored, hwrite]

/-- Commands are written where their path leads and no directory stands. -/
theorem write_of_locate {place : Location}
    (h : tree.makeDirectories (output.path source).parent = (after, none))
    (hlocate : after.locate (output.path source) = .ok place)
    (hplace : after.entryAt place ≠ some .directory) :
    output.write tree source commands =
      (after.put place (.file (stored commands)), .ok (output.path source)) := by
  unfold write
  dsimp only
  rw [h]
  dsimp only
  rw [FileTree.write_eq hlocate hplace, stored]

/-- However writing ends, the tree only grows. -/
theorem Storing.grows {result : Except FileTree.Fault Path}
    (h : Storing output tree source commands after result) : tree.Grows after := by
  cases h with
  | unmade h => exact (FileTree.makeDirectories_gains h).toGrows
  | unopened h => exact (FileTree.makeDirectories_gains h).toGrows
  | written h hlocate hplace =>
    exact (FileTree.makeDirectories_gains h).toGrows.trans (.put_file hplace _)

/-- Storing commands changes no place but theirs, directories that are made apart. -/
theorem Storing.entryAt {result : Except FileTree.Fault Path}
    (h : Storing output tree source commands after result) {place : Location}
    (hplace : place ≠ tree.destination (output.path source)) :
    after.entryAt place = tree.entryAt place ∨
      (tree.entryAt place = none ∧ after.entryAt place = some .directory) := by
  cases h with
  | unmade h => exact (FileTree.makeDirectories_gains h).kept place
  | unopened h => exact (FileTree.makeDirectories_gains h).kept place
  | @written made _ h hlocate =>
    have hgains := FileTree.makeDirectories_gains h
    rw [← hgains.destination, FileTree.destination_of_locate hlocate] at hplace
    rw [FileTree.entryAt_put_of_ne made hplace]
    exact hgains.kept place

/-- Commands that are stored can be read. -/
theorem read_of_write_eq_ok {target : Path}
    (h : output.write tree source commands = (after, .ok target)) :
    target = output.path source ∧ after.read target = .ok (stored commands) := by
  cases storing_of_write h with
  | written hmake hlocate hplace =>
    exact ⟨rfl, FileTree.read_put hlocate hplace (stored commands)⟩

/-! ## A second time -/

/-- The directory for the commands of a file can not be made, and a name on the way to it is
missing at first. -/
def Obstructed (output : Output) (tree : FileTree) (source : Path) : Prop :=
  tree.locate (output.path source).parent =
      .error (.refused .missing (output.path source).parent) ∧
    (tree.makeDirectories (output.path source).parent).2 ≠ none

/-- Commands that have been stored stand at their place, and can be stored there again. -/
theorem write_again_of_ok {target : Path}
    (h : output.write tree source commands = (after, .ok target)) :
    target = output.path source ∧
      after.entryAt (tree.destination (output.path source)) = some (.file (stored commands)) ∧
      ∀ {later}, after.Grows later → ∀ others, output.write later source others =
        (later.put (tree.destination (output.path source)) (.file (stored others)),
          .ok (output.path source)) := by
  cases storing_of_write h with
  | @written made place hmake hlocate hplace =>
    have hgains := FileTree.makeDirectories_gains hmake
    have hsettled := FileTree.settled_of_makeDirectories hmake
    have hroot : place ≠ [] := by
      rintro rfl
      exact hplace (FileTree.entryAt_root made)
    have hput := FileTree.entryAt_put_self made hroot (.file (stored commands))
    rw [← hgains.destination, FileTree.destination_of_locate hlocate]
    refine ⟨rfl, hput, fun {later} hlater others => ?_⟩
    have hgrows := (FileTree.Grows.put_file hplace (stored commands)).trans hlater
    apply write_of_locate (hsettled.makeDirectories hgrows) (hgrows.locate_eq_ok hlocate)
    rcases hlater.file hput with ⟨octets, hoctets⟩
    simp [hoctets]

/-- Commands that could not be stored can not be stored, and nothing changes then.  The fault is
the same, unless the first attempt has made directories and could not go on. -/
theorem write_again_of_error {fault : FileTree.Fault}
    (h : output.write tree source commands = (after, .error fault)) (hgrows : after.Grows later) :
    ∃ again, output.write later source commands = (later, .error again) ∧
      (again = fault ∨ output.Obstructed tree source) := by
  cases storing_of_write h with
  | unmade hmake =>
    rcases FileTree.makeDirectories_settles hmake with ⟨again?, hsettled, hagain, hsame⟩
    cases again? with
    | none => simp at hagain
    | some again =>
      refine ⟨again, write_of_makeDirectories (hsettled.makeDirectories hgrows), ?_⟩
      by_cases hmissing : tree.locate (output.path source).parent =
          .error (.refused .missing (output.path source).parent)
      · right
        exact ⟨hmissing, by simp [hmake]⟩
      · left
        exact Option.some.inj (hsame hmissing)
  | unopened hmake hopen =>
    have hsettled := FileTree.settled_of_makeDirectories hmake
    have hfound := hsettled.hasDirectory.locate_ne_missing
    exact ⟨fault, write_of_write_eq_error (hsettled.makeDirectories hgrows)
      (hgrows.write_eq_error hopen hfound), Or.inl rfl⟩

end Output
end RequestScript
