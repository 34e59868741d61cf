import RequestScript.Proofs.Files.Growth

/-!
# Directories that are made

Making a directory, with the directories above it, settles whether the directory can be made at
all: a second attempt, on the tree that the first one left or on any tree that has grown from it,
changes nothing and ends as the first one did.  Only the fault may name another path.  The first
attempt makes one directory after another and tells where it had to stop; the second one finds
them made and tells that the path as a whole leads nowhere.

Main results:

- Theorem {lit}`Path.text_parent`: the written form of a path begins with its parent's.
- Theorem {lit}`ensureDirectory_eq`: what it takes to make one directory.
- Definition {lit}`FileTree.Settled`: whether a directory can be made is settled.
- Theorem {lit}`makeDirectories_gains`: making a directory adds directories and nothing else.
- Theorem {lit}`makeDirectories_settles`: making a directory settles it.
-/

namespace RequestScript

open Text

/-! ## Written forms -/

namespace Path

theorem join_dropLast_isPrefix (separator : Text) (parts : List Text) :
    Text.join separator parts.dropLast <+: Text.join separator parts := by
  rw [Text.join, Text.join]
  induction parts with
  | nil => exact List.prefix_rfl
  | cons part parts ih =>
    cases parts with
    | nil => exact List.nil_prefix
    | cons next parts =>
      rw [List.dropLast_cons_cons, List.intercalate_cons_cons]
      cases parts with
      | nil =>
        rw [List.dropLast_singleton, List.intercalate_singleton, List.append_assoc]
        exact List.prefix_append part _
      | cons other parts =>
        rw [List.dropLast_cons_cons] at ih ⊢
        rw [List.intercalate_cons_cons, List.prefix_append_right_inj]
        exact ih

/-- The written form of a path begins with the written form of its parent, unless the parent is
the directory that paths start from. -/
theorem text_parent (path : Path) : path.parent.text <+: path.text ∨ path.parent.text = ['.'] := by
  have hprefix : path.anchor.text ++ Text.join ['/'] path.parts.dropLast <+:
      path.anchor.text ++ Text.join ['/'] path.parts :=
    (List.prefix_append_right_inj _).mpr (join_dropLast_isPrefix ['/'] path.parts)
  unfold text parent
  dsimp only
  by_cases hempty : path.anchor.text ++ Text.join ['/'] path.parts.dropLast = []
  · right
    rw [hempty]
    rfl
  · left
    have hwhole : path.anchor.text ++ Text.join ['/'] path.parts ≠ [] := by
      intro hnil
      rw [hnil] at hprefix
      exact hempty (List.prefix_nil.mp hprefix)
    rw [if_neg (by simpa using hempty), if_neg (by simpa using hwhole)]
    exact hprefix

end Path

namespace FileTree

variable {tree made later : FileTree} {place : Location} {path : Path}

/-- A text is usable when each of its characters is. -/
theorem unusable?_eq_none_iff {text : Text} :
    unusable? text = none ↔ ∀ c ∈ text, (isStandIn c && !isOctet c) = false ∧ c ≠ '\x00' := by
  rw [unusable?, unencodable?]
  cases hfind : text.findIdx? fun c => isStandIn c && !isOctet c with
  | some place =>
    have hsome : ¬ ∀ c ∈ text, (isStandIn c && !isOctet c) = false := by
      intro hall
      rw [List.findIdx?_eq_none_iff.mpr hall] at hfind
      cases hfind
    constructor
    · intro h
      cases h
    · intro hall
      exact absurd (fun c hc => (hall c hc).1) hsome
  | none =>
    have hnone := List.findIdx?_eq_none_iff.mp hfind
    by_cases hzero : '\x00' ∈ text
    · have hcontains : text.contains '\x00' = true := by simpa using hzero
      dsimp only
      rw [if_pos hcontains]
      constructor
      · intro h
        cases h
      · intro hall
        exact absurd rfl (hall '\x00' hzero).2
    · have hcontains : ¬ text.contains '\x00' = true := by simpa using hzero
      dsimp only
      rw [if_neg hcontains]
      constructor
      · intro _ c hc
        exact ⟨hnone c hc, fun hc' => hzero (hc' ▸ hc)⟩
      · intro _
        rfl

/-- What makes a text no path is not that something is refused. -/
theorem isRefusal_of_unusable? {text : Text} {fault : Fault} (h : unusable? text = some fault) :
    fault.isRefusal = false := by
  unfold unusable? unencodable? at h
  cases hfind : text.findIdx? fun c => isStandIn c && !isOctet c with
  | some place =>
    rw [hfind] at h
    cases h
    rfl
  | none =>
    rw [hfind] at h
    dsimp only at h
    split at h
    · cases h
      rfl
    · cases h

/-- Octets are counted character by character. -/
theorem octetCount_append (front back : Text) :
    octetCount (front ++ back) = octetCount front + octetCount back := by
  rw [octetCount, octetCount, octetCount]
  induction front with
  | nil => simp
  | cons c front ih =>
    simp only [List.cons_append, List.map_cons, List.foldr_cons, ih]
    omega

/-- A path whose text is one, and not too long. -/
structure Fits (path : Path) : Prop where
  usable : unusable? path.text = none
  size : octetCount path.text ≤ maxPathSize

/-- A path leads to a place when it fits and its names can be followed. -/
theorem locate_of_fits (h : Fits path) :
    tree.locate path =
      match tree.walk (tree.start path) path.parts with
      | .ok place => .ok place
      | .error reason => .error (.refused reason path) := by
  rw [locate_eq, h.usable]
  exact if_neg (Nat.not_lt.mpr h.size)

/-- The parent of a path that fits does. -/
theorem Fits.parent (h : Fits path) : Fits path.parent := by
  rcases path.text_parent with hprefix | hdot
  · rcases hprefix with ⟨rest, hrest⟩
    constructor
    · rw [unusable?_eq_none_iff]
      intro c hc
      apply unusable?_eq_none_iff.mp h.usable
      rw [← hrest]
      exact List.mem_append_left rest hc
    · have hsize := h.size
      rw [← hrest, octetCount_append] at hsize
      omega
  · constructor
    · rw [hdot]
      decide
    · rw [hdot]
      decide

/-- A path that is not found for a missing name fits, and has names. -/
theorem fits_of_missing (h : tree.locate path = .error (.refused .missing path)) :
    Fits path ∧ path.parts ≠ [] := by
  rw [locate_eq] at h
  cases hunusable : unusable? path.text with
  | some fault =>
    have hrefusal := isRefusal_of_unusable? hunusable
    rw [hunusable] at h
    rw [Except.error.inj h] at hrefusal
    cases hrefusal
  | none =>
    rw [hunusable] at h
    dsimp only at h
    split at h
    · cases h
    · rename_i hsize
      constructor
      · exact ⟨hunusable, Nat.not_lt.mp hsize⟩
      · intro hnames
        rw [hnames] at h
        cases h

/-! ## Making one directory -/

/-- A path leads to a directory. -/
def HasDirectory (tree : FileTree) (path : Path) : Prop :=
  ∃ place, tree.locate path = .ok place ∧ tree.entryAt place = some .directory

/-- A path that leads to a directory leads to one when the tree has grown. -/
theorem Grows.hasDirectory (h : tree.Grows later) (hpath : tree.HasDirectory path) :
    later.HasDirectory path := by
  rcases hpath with ⟨place, hlocate, hentry⟩
  exact ⟨place, h.locate_eq_ok hlocate, h.directory hentry⟩

/-- A directory is made where a path leads and nothing stands. -/
theorem makeDirectory_eq (tree : FileTree) (path : Path) :
    tree.makeDirectory path = tree.locate path >>= fun place =>
      match tree.entryAt place with
      | some _ => .error (.refused .present path)
      | none => .ok (tree.put place .directory) := rfl

/-- A directory is made where nothing stands, and is found where it stands. -/
theorem ensureDirectory_eq (tree : FileTree) (path : Path) :
    tree.ensureDirectory path =
      match tree.locate path with
      | .error fault => .error fault
      | .ok place =>
        match tree.entryAt place with
        | none => .ok (tree.put place .directory)
        | some .directory => .ok tree
        | some (.file _) => .error (.refused .present path) := by
  have hdirectory : tree.isDirectory path = tree.entry? path >>= fun entry =>
      .ok (decide (entry = some .directory)) := rfl
  cases hlocate : tree.locate path with
  | error fault =>
    have habsent : tree.isDirectory path ≠ .ok true := by
      rw [hdirectory, entry?, hlocate]
      split
      · rename_i hok
        cases hok
      · intro h
        cases h
      · intro h
        cases h
    rw [ensureDirectory, makeDirectory_eq, hlocate]
    simp only [bind, Except.bind]
    split
    · rfl
    · rename_i h
      exact absurd h habsent
    · rfl
  | ok place =>
    rw [ensureDirectory, makeDirectory_eq, hdirectory, entry?, hlocate]
    simp only [bind, Except.bind]
    cases tree.entryAt place with
    | none => rfl
    | some entry =>
      cases entry with
      | directory => rfl
      | file octets => rfl

/-- A directory that is there is left as it is. -/
theorem ensureDirectory_of_hasDirectory (h : tree.HasDirectory path) :
    tree.ensureDirectory path = .ok tree := by
  rcases h with ⟨place, hlocate, hentry⟩
  rw [ensureDirectory_eq, hlocate]
  dsimp only
  rw [hentry]

/-- A directory is there once it has been ensured, and only directories have been made. -/
theorem hasDirectory_of_ensureDirectory (h : tree.ensureDirectory path = .ok made) :
    tree.GainsDirectories made ∧ made.HasDirectory path := by
  rw [ensureDirectory_eq] at h
  cases hlocate : tree.locate path with
  | error fault =>
    rw [hlocate] at h
    cases h
  | ok place =>
    rw [hlocate] at h
    dsimp only at h
    cases hentry : tree.entryAt place with
    | none =>
      rw [hentry] at h
      cases h
      have hroot : place ≠ [] := by
        rintro rfl
        cases hentry
      have hfree : tree.entryAt place ≠ some .directory := by simp [hentry]
      exact ⟨.put hentry, place, locate_put hfree .directory hlocate,
        entryAt_put_self tree hroot .directory⟩
    | some entry =>
      cases entry with
      | directory =>
        rw [hentry] at h
        cases h
        exact ⟨.refl tree, place, hlocate, hentry⟩
      | file octets =>
        rw [hentry] at h
        cases h

/-- A refusal to make a directory names its path. -/
theorem path_of_ensureDirectory {reason : Refusal} {other : Path}
    (h : tree.ensureDirectory path = .error (.refused reason other)) : other = path := by
  rw [ensureDirectory_eq, locate_eq] at h
  cases hunusable : unusable? path.text with
  | some fault =>
    have hrefusal := isRefusal_of_unusable? hunusable
    rw [hunusable] at h
    rw [Except.error.inj h] at hrefusal
    cases hrefusal
  | none =>
    rw [hunusable] at h
    dsimp only at h
    split at h
    · rename_i hlocate
      rw [Except.error.inj h] at hlocate
      split at hlocate
      · cases hlocate
        rfl
      · split at hlocate
        · cases hlocate
        · cases hlocate
          rfl
    · split at h
      · cases h
      · cases h
      · cases h
        rfl

/-- A refusal to make a directory stays, unless it was that a name was missing. -/
theorem Grows.ensureDirectory_eq_error (h : tree.Grows later) {fault : Fault}
    (hfault : tree.ensureDirectory path = .error fault)
    (hfound : fault ≠ .refused .missing path) : later.ensureDirectory path = .error fault := by
  rw [ensureDirectory_eq] at hfault ⊢
  cases hlocate : tree.locate path with
  | error reason =>
    rw [hlocate] at hfault
    rw [h.locate hlocate (by rw [Except.error.inj hfault]; simpa using hfound)]
    exact hfault
  | ok place =>
    rw [hlocate] at hfault
    rw [h.locate_eq_ok hlocate]
    dsimp only at hfault ⊢
    cases hentry : tree.entryAt place with
    | none =>
      rw [hentry] at hfault
      cases hfault
    | some entry =>
      cases entry with
      | directory =>
        rw [hentry] at hfault
        cases hfault
      | file octets =>
        rcases h.file hentry with ⟨others, hothers⟩
        rw [hentry] at hfault
        rw [hothers]
        exact hfault

/-! ## Making the directories above -/

/-- No name of a path is missing when its parent is a directory. -/
theorem HasDirectory.locate_ne_missing (h : tree.HasDirectory path.parent) :
    tree.locate path ≠ .error (.refused .missing path) := by
  intro hmissing
  rcases fits_of_missing hmissing with ⟨hfits, hnames⟩
  rcases h with ⟨place, hlocate, hentry⟩
  have hparent : tree.walk (tree.start path) path.parts.dropLast = .ok place :=
    (locate_eq_ok.mp hlocate).2.2
  rw [locate_of_fits hfits, ← List.dropLast_append_getLast hnames, walk_append, hparent] at hmissing
  dsimp only at hmissing
  rw [walk_cons_of_directory hentry] at hmissing
  split at hmissing
  · rename_i hstep
    cases hmissing
  · rename_i hstep
    split at hstep
    · cases hstep
      cases hmissing
    · cases hstep

/-- A path leads nowhere for good when its parent can not become a directory. -/
theorem exists_locate_of_parent {fault : Fault} (hfits : Fits path) (hnames : path.parts ≠ [])
    (hparent : tree.ensureDirectory path.parent = .error fault)
    (hfound : fault ≠ .refused .missing path.parent) :
    ∃ reason, reason ≠ .missing ∧ tree.locate path = .error (.refused reason path) := by
  rw [ensureDirectory_eq, locate_of_fits hfits.parent] at hparent
  have hstart : tree.start path.parent = tree.start path := rfl
  have hparts : path.parent.parts = path.parts.dropLast := rfl
  rw [hstart, hparts] at hparent
  rw [locate_of_fits hfits, ← List.dropLast_append_getLast hnames, walk_append]
  cases hwalk : tree.walk (tree.start path) path.parts.dropLast with
  | error reason =>
    rw [hwalk] at hparent
    refine ⟨reason, ?_, rfl⟩
    rintro rfl
    exact hfound (Except.error.inj hparent).symm
  | ok place =>
    rw [hwalk] at hparent
    dsimp only at hparent ⊢
    cases hentry : tree.entryAt place with
    | none =>
      rw [hentry] at hparent
      cases hparent
    | some entry =>
      cases entry with
      | directory =>
        rw [hentry] at hparent
        cases hparent
      | file octets =>
        rw [walk_cons_of_file hentry]
        exact ⟨.notDirectory, by simp, rfl⟩

/-- Whether a directory can be made is settled: on every tree that has grown from this one,
making it changes nothing and meets the same fault, or none. -/
structure Settled (tree : FileTree) (path : Path) (fault? : Option Fault) : Prop where
  found : fault? ≠ some (.refused .missing path)
  ensure : ∀ {later}, tree.Grows later →
    later.ensureDirectory path = match fault? with
      | none => .ok later
      | some fault => .error fault

/-- A directory that is there need not be made again. -/
theorem HasDirectory.settled (h : tree.HasDirectory path) : tree.Settled path none :=
  ⟨by simp, fun hgrows => ensureDirectory_of_hasDirectory (hgrows.hasDirectory h)⟩

/-- A directory that need not be made again is there. -/
theorem Settled.hasDirectory (h : tree.Settled path none) : tree.HasDirectory path :=
  (hasDirectory_of_ensureDirectory (h.ensure (.refl tree))).2

/-- A fault other than a missing parent is met again in every tree that has grown. -/
theorem settled_of_ensureDirectory {fault : Fault} (h : tree.ensureDirectory path = .error fault)
    (hfound : fault ≠ .refused .missing path) : tree.Settled path (some fault) :=
  ⟨by simpa using hfound, fun hgrows => hgrows.ensureDirectory_eq_error h hfound⟩

/-- A path can not become a directory when its parent can not. -/
theorem Settled.of_parent {fault : Fault} (h : tree.Settled path.parent (some fault))
    (hfits : Fits path) (hnames : path.parts ≠ []) : ∃ other, tree.Settled path (some other) := by
  rcases exists_locate_of_parent hfits hnames (h.ensure (.refl tree))
    (by simpa using h.found) with ⟨reason, hreason, hlocate⟩
  have hensure : tree.ensureDirectory path = .error (.refused reason path) := by
    rw [ensureDirectory_eq, hlocate]
  exact ⟨_, settled_of_ensureDirectory hensure (by simpa using hreason)⟩

/-- A second attempt to make a settled directory changes nothing. -/
theorem Settled.makeDirectoriesWithin {fault? : Option Fault} (h : tree.Settled path fault?)
    (hgrows : tree.Grows later) (depth : Nat) :
    later.makeDirectoriesWithin path (depth + 1) = (later, fault?) := by
  have hensure := h.ensure hgrows
  cases fault? with
  | none => rw [FileTree.makeDirectoriesWithin, hensure]
  | some fault =>
    rw [FileTree.makeDirectoriesWithin, hensure]
    dsimp only
    split
    · rename_i hfault
      cases hfault
    · rename_i hfault
      rw [Except.error.inj hfault, path_of_ensureDirectory (hensure.trans hfault)] at h
      exact absurd rfl h.found
    · rename_i hfault
      rw [Except.error.inj hfault]

/-- What can come of making a directory, with at most so many directories above it. -/
inductive Making (tree : FileTree) (path : Path) (depth : Nat) : FileTree → Option Fault → Prop
  /-- The parent is there, so the directory is made or found. -/
  | ensured {made : FileTree} (h : tree.ensureDirectory path = .ok made) :
      Making tree path depth made none
  /-- It is refused, and not for a missing name. -/
  | refused {fault : Fault} (h : tree.ensureDirectory path = .error fault)
      (hfound : fault ≠ .refused .missing path) : Making tree path depth tree (some fault)
  /-- A name is missing, and the parent can not be made. -/
  | stopped {made : FileTree} {fault : Fault}
      (h : tree.ensureDirectory path = .error (.refused .missing path))
      (habove : tree.makeDirectoriesWithin path.parent depth = (made, some fault)) :
      Making tree path depth made (some fault)
  /-- A name is missing, the parent is made, and the directory is tried again. -/
  | retried {above made : FileTree} {fault? : Option Fault}
      (h : tree.ensureDirectory path = .error (.refused .missing path))
      (habove : tree.makeDirectoriesWithin path.parent depth = (above, none))
      (hagain : (match above.ensureDirectory path with
        | .ok made => (made, none)
        | .error fault => (above, some fault)) = (made, fault?)) :
      Making tree path depth made fault?

/-- Making a directory with those above it goes one of the ways told by {lit}`Making`. -/
theorem making_of_makeDirectoriesWithin {depth : Nat} {fault? : Option Fault}
    (h : tree.makeDirectoriesWithin path (depth + 1) = (made, fault?)) :
    Making tree path depth made fault? := by
  rw [makeDirectoriesWithin] at h
  split at h
  · rename_i hensure
    cases h
    exact .ensured hensure
  · rename_i other hensure
    cases path_of_ensureDirectory hensure
    split at h
    · rename_i habove
      exact .retried hensure habove h
    · rename_i failed hfailed
      rcases hattempt : tree.makeDirectoriesWithin path.parent depth with ⟨above, fault | _⟩
      · exact absurd hattempt (hfailed above)
      · rw [hattempt] at h
        cases h
        exact .stopped hensure hattempt
  · rename_i fault hfound hensure
    cases h
    exact .refused hensure (hfound path)

/-- A directory can not be made for want of a parent only where its path does not lead. -/
theorem locate_of_ensureDirectory
    (h : tree.ensureDirectory path = .error (.refused .missing path)) :
    tree.locate path = .error (.refused .missing path) := by
  rw [ensureDirectory_eq] at h
  split at h
  · rename_i hlocate
    rw [hlocate, Except.error.inj h]
  · split at h
    · cases h
    · cases h
    · cases h

/-- Making a directory, with the directories above it, adds directories and nothing else. -/
theorem makeDirectoriesWithin_gains {depth : Nat} {fault? : Option Fault}
    (h : tree.makeDirectoriesWithin path depth = (made, fault?)) : tree.GainsDirectories made := by
  induction depth generalizing path made fault? with
  | zero =>
    cases h
    exact .refl tree
  | succ depth ih =>
    cases making_of_makeDirectoriesWithin h with
    | ensured hensure => exact (hasDirectory_of_ensureDirectory hensure).1
    | refused => exact .refl tree
    | stopped _ habove => exact ih habove
    | @retried above _ _ _ habove hretry =>
      cases htry : above.ensureDirectory path with
      | ok final =>
        rw [htry] at hretry
        cases hretry
        exact (ih habove).trans (hasDirectory_of_ensureDirectory htry).1
      | error fault =>
        rw [htry] at hretry
        cases hretry
        exact ih habove

/-- Making a directory, with the directories above it, settles it.  A fault is met again, unless
a name on the way was missing at first. -/
theorem makeDirectoriesWithin_settles {depth : Nat} (hdepth : path.parts.length < depth)
    {fault? : Option Fault} (h : tree.makeDirectoriesWithin path depth = (made, fault?)) :
    ∃ again?, made.Settled path again? ∧ (again? = none ↔ fault? = none) ∧
      (tree.locate path ≠ .error (.refused .missing path) → again? = fault?) := by
  induction depth generalizing path made fault? with
  | zero => omega
  | succ depth ih =>
    have hparent : path.parts ≠ [] → path.parent.parts.length < depth := by
      intro hnames
      have hlength : path.parent.parts.length = path.parts.length - 1 := List.length_dropLast
      have hpositive : 0 < path.parts.length := List.length_pos_iff.mpr hnames
      omega
    cases making_of_makeDirectoriesWithin h with
    | ensured hensure =>
      exact ⟨none, (hasDirectory_of_ensureDirectory hensure).2.settled, Iff.rfl, fun _ => rfl⟩
    | refused hensure hother =>
      exact ⟨_, settled_of_ensureDirectory hensure hother, Iff.rfl, fun _ => rfl⟩
    | stopped hensure habove =>
      have hmissing := locate_of_ensureDirectory hensure
      rcases fits_of_missing hmissing with ⟨hfits, hnames⟩
      rcases ih (hparent hnames) habove with ⟨again?, hsettled, hagain, -⟩
      cases again? with
      | none => simp at hagain
      | some again =>
        rcases hsettled.of_parent hfits hnames with ⟨other, hother⟩
        exact ⟨some other, hother, by simp, fun hfound => absurd hmissing hfound⟩
    | @retried above _ _ hensure habove hretry =>
      have hmissing := locate_of_ensureDirectory hensure
      rcases ih (hparent (fits_of_missing hmissing).2) habove with ⟨again?, hsettled, hagain, -⟩
      rw [hagain.mpr rfl] at hsettled
      -- The parent is there now, so the second try does not miss a name.
      have hfound := hsettled.hasDirectory.locate_ne_missing
      cases htry : above.ensureDirectory path with
      | ok final =>
        rw [htry] at hretry
        cases hretry
        exact ⟨none, (hasDirectory_of_ensureDirectory htry).2.settled, Iff.rfl, fun _ => rfl⟩
      | error fault =>
        rw [htry] at hretry
        cases hretry
        refine ⟨some fault, settled_of_ensureDirectory htry ?_, Iff.rfl, fun _ => rfl⟩
        rintro rfl
        exact hfound (locate_of_ensureDirectory htry)

/-- Making directories makes nothing but directories. -/
theorem makeDirectories_gains {fault? : Option Fault}
    (h : tree.makeDirectories path = (made, fault?)) : tree.GainsDirectories made :=
  makeDirectoriesWithin_gains h

/-- Making a directory, with the directories above it, settles it. -/
theorem makeDirectories_settles {fault? : Option Fault}
    (h : tree.makeDirectories path = (made, fault?)) :
    ∃ again?, made.Settled path again? ∧ (again? = none ↔ fault? = none) ∧
      (tree.locate path ≠ .error (.refused .missing path) → again? = fault?) :=
  makeDirectoriesWithin_settles (Nat.lt_succ_self _) h

/-- What is settled is met again without a change. -/
theorem Settled.makeDirectories {fault? : Option Fault} (h : tree.Settled path fault?)
    (hgrows : tree.Grows later) : later.makeDirectories path = (later, fault?) :=
  h.makeDirectoriesWithin hgrows _

/-- A directory that has been made is there. -/
theorem settled_of_makeDirectories (h : tree.makeDirectories path = (made, none)) :
    made.Settled path none := by
  rcases makeDirectories_settles h with ⟨again?, hsettled, hagain, -⟩
  rwa [hagain.mpr rfl] at hsettled

end FileTree
end RequestScript
