import RequestScript.Conversion.Input
import RequestScript.Conversion.Output
import RequestScript.Proofs.Text.Encoding
import RequestScript.Proofs.Text.Words

/-!
# What is written can be read

A path is spelled by its written form, and a file that has been written is found again under
the same path.  A path is followed through directories only, and a file is never put where a
directory stands, so the places on the way stay as they are.

Main results:

- Theorem {lit}`Path.ofText_text`: a path is read back from its written form.
- Theorem {lit}`FileTree.locate_put`: where nothing but files is replaced, paths lead where
  they did.
- Theorem {lit}`FileTree.read_put`: a file that has been put at a place is read there.
- Theorem {lit}`Input.read_encode`: a stored text is read with its line ends made one.
- Theorem {lit}`Output.exists_write_eq`: commands can be written, and what is in their file
  then.
-/

namespace RequestScript

open Text

/-! ## Paths -/

namespace Path

/-- A name on the way: not empty, not a single dot, and without slashes. -/
structure IsStep (name : Text) : Prop where
  ne_nil : name ≠ []
  ne_dot : name ≠ ['.']
  slash_not_mem : '/' ∉ name

theorem isStep_of_mem_partsOf {text name : Text} (h : name ∈ partsOf text) : IsStep name := by
  rcases List.mem_filter.mp h with ⟨hpiece, hkept⟩
  have hslash : '/' ∉ name := by
    intro hmem
    simpa using (mem_of_mem_splitOnP hpiece '/' hmem).2
  constructor
  · rintro rfl
    simp at hkept
  · rintro rfl
    simp at hkept
  · exact hslash

theorem partsOf_cons_slash (text : Text) : partsOf ('/' :: text) = partsOf text := by
  have hcut : ('/' :: text).splitOn '/' = [] :: text.splitOn '/' :=
    List.splitOn_append_cons_self [] text
  rw [partsOf, hcut]
  rfl

/-- Names are found again between slashes. -/
theorem partsOf_join {names : List Text} (h : ∀ name ∈ names, IsStep name) :
    partsOf (Text.join ['/'] names) = names := by
  by_cases hempty : names = []
  · subst hempty
    rfl
  · have hsplit : (Text.join ['/'] names).splitOn '/' = names :=
      List.splitOn_intercalate '/' (fun name hname => (h name hname).slash_not_mem) hempty
    rw [partsOf, hsplit, List.filter_eq_self]
    intro name hname
    simp [(h name hname).ne_nil, (h name hname).ne_dot]

/-- No slash stands at the front of joined names. -/
theorem head?_join_ne_slash {names : List Text} (h : ∀ name ∈ names, IsStep name) :
    (Text.join ['/'] names).head? ≠ some '/' := by
  cases names with
  | nil => simp
  | cons name names =>
    have hstep := h name (List.mem_cons_self)
    cases name with
    | nil => exact absurd rfl hstep.ne_nil
    | cons c name =>
      have hc : c ≠ '/' := fun hslash => hstep.slash_not_mem (by simp [hslash])
      cases names with
      | nil => simpa using hc
      | cons next names => simpa [Text.join, List.intercalate_cons_cons] using hc

theorem anchorOf_append (anchor : Anchor) {text : Text} (h : text.head? ≠ some '/') :
    anchorOf (anchor.text ++ text) = anchor := by
  have hnone : text.takeWhile (· == '/') = [] := by
    cases text with
    | nil => rfl
    | cons c text =>
      have hc : c ≠ '/' := by simpa using h
      simp [hc]
  cases anchor <;> simp [anchorOf, Anchor.text, hnone]

/-- A path that a text spells is spelled by its written form. -/
theorem ofText_text (text : Text) : ofText (ofText text).text = ofText text := by
  have hsteps : ∀ name ∈ partsOf text, IsStep name := fun name => isStep_of_mem_partsOf
  have hanchor := anchorOf_append (anchorOf text) (head?_join_ne_slash hsteps)
  have hparts : partsOf ((anchorOf text).text ++ Text.join ['/'] (partsOf text)) = partsOf text := by
    cases anchorOf text with
    | workingDirectory => exact partsOf_join hsteps
    | root => exact (partsOf_cons_slash _).trans (partsOf_join hsteps)
    | doubleRoot =>
      exact ((partsOf_cons_slash _).trans (partsOf_cons_slash _)).trans (partsOf_join hsteps)
  unfold Path.text
  dsimp only [ofText]
  by_cases hempty : (anchorOf text).text ++ Text.join ['/'] (partsOf text) = []
  · rw [hempty] at hanchor hparts ⊢
    rw [← hanchor, ← hparts]
    rfl
  · rw [if_neg (by simpa using hempty), hanchor, hparts]

end Path

/-! ## Files -/

namespace FileTree

variable {tree : FileTree} {place : Location}

/-- Names are followed through directories, so a change where no directory stands does not
lead them elsewhere. -/
theorem walk_put (hplace : tree.entryAt place ≠ some .directory) (entry : Entry)
    {here there : Location} {names : List Text} (h : tree.walk here names = .ok there) :
    (tree.put place entry).walk here names = .ok there := by
  induction names generalizing here with
  | nil => exact h
  | cons name names ih =>
    rw [walk] at h
    split at h
    · cases h
    · cases h
    · rename_i hdirectory
      have hne : here ≠ place := by
        intro hsame
        rw [hsame] at hdirectory
        exact hplace hdirectory
      split at h
      · cases h
      · rename_i hsize
        rw [walk, entryAt_put_of_ne tree hne entry, hdirectory]
        dsimp only
        rw [if_neg hsize]
        exact ih h

/-- Where a path starts. -/
def start (tree : FileTree) (path : Path) : Location :=
  match path.anchor with
  | .workingDirectory => tree.workingDirectory
  | _ => []

theorem locate_eq (tree : FileTree) (path : Path) :
    tree.locate path =
      match unusable? path.text with
      | some fault => .error fault
      | none =>
        if maxPathSize < octetCount path.text then .error (.refused .tooLong path)
        else
          match tree.walk (tree.start path) path.parts with
          | .ok place => .ok place
          | .error reason => .error (.refused reason path) := rfl

/-- A path leads to a place when its text is one and its names can be followed. -/
theorem locate_eq_ok {path : Path} :
    tree.locate path = .ok place ↔
      unusable? path.text = none ∧ octetCount path.text ≤ maxPathSize ∧
        tree.walk (tree.start path) path.parts = .ok place := by
  rw [locate_eq]
  cases unusable? path.text with
  | some fault => simp
  | none =>
    by_cases hsize : maxPathSize < octetCount path.text
    · have hlong : ¬ octetCount path.text ≤ maxPathSize := by omega
      simp [hsize, hlong]
    · have hfits : octetCount path.text ≤ maxPathSize := by omega
      cases hwalk : tree.walk (tree.start path) path.parts with
      | ok there => simp [hsize, hfits]
      | error reason => simp [hsize]

/-- A path leads where it did after a change where no directory stands. -/
theorem locate_put (hplace : tree.entryAt place ≠ some .directory) (entry : Entry) {path : Path}
    {there : Location} (h : tree.locate path = .ok there) :
    (tree.put place entry).locate path = .ok there := by
  rcases locate_eq_ok.mp h with ⟨husable, hsize, hwalk⟩
  exact locate_eq_ok.mpr ⟨husable, hsize, walk_put hplace entry hwalk⟩

/-- A file can be written where no directory stands. -/
theorem write_eq {path : Path} (h : tree.locate path = .ok place)
    (hplace : tree.entryAt place ≠ some .directory) (octets : List UInt8) :
    tree.write path octets = .ok (tree.put place (.file octets)) := by
  simp only [write, h, bind, Except.bind]

/-- A file that has been put where a path leads is read under this path. -/
theorem read_put {path : Path} (h : tree.locate path = .ok place)
    (hplace : tree.entryAt place ≠ some .directory) (octets : List UInt8) :
    (tree.put place (.file octets)).read path = .ok octets := by
  have hroot : place ≠ [] := by
    intro hempty
    rw [hempty] at hplace
    exact hplace (entryAt_root tree)
  have hlocate := locate_put hplace (.file octets) h
  have hentry := entryAt_put_self tree hroot (.file octets)
  simp only [read, hlocate, bind, Except.bind, hentry]

end FileTree

/-! ## Scripts -/

namespace Input

/-- A stored text is read with its line ends made one. -/
theorem read_encode {tree : FileTree} {path : Path} {content : Text}
    (h : tree.read path = .ok (Utf8.encode content)) :
    read tree path = .ok (normalizeLineEnds content) := by
  rw [read, h]
  dsimp only
  rw [Utf8.decode_encode]

end Input

/-! ## Commands -/

namespace Output

/-- The commands of a file can be written: the directory for them is there or can be made,
and in it no directory stands where they go. -/
def Writable (output : Output) (tree : FileTree) (source : Path) : Prop :=
  ∃ made place, tree.makeDirectories (output.path source).parent = (made, none) ∧
    made.locate (output.path source) = .ok place ∧ made.entryAt place ≠ some .directory

/-- Commands that can be written are, and their file holds them then. -/
theorem exists_write_eq {output : Output} {tree : FileTree} {source : Path}
    (h : output.Writable tree source) (commands : List Text) :
    ∃ written, output.write tree source commands = (written, .ok (output.path source)) ∧
      written.read (output.path source) = .ok (Utf8.encode (Command.format commands)) := by
  rcases h with ⟨made, place, hmade, hlocate, hplace⟩
  have hwrite := FileTree.write_eq hlocate hplace (Utf8.encode (Command.format commands))
  refine ⟨_, ?_, FileTree.read_put hlocate hplace _⟩
  unfold write
  dsimp only
  rw [hmade]
  dsimp only
  rw [hwrite]

end Output
end RequestScript
