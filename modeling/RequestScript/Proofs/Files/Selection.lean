import RequestScript.Proofs.Files.Removal
import RequestScript.Proofs.Files.WellFormed

/-!
# Selected paths

A pattern is followed step by step, and every step gathers what the rest of the pattern selects
below each of the paths that it leads to.  So what selecting says of a tree is told step by step
as well: which names it adds to a path, what can go wrong, and what it selects without a file.

Main results:

- Definition {lit}`Glob.gather`: the results of a search at each of several places.
- Theorem {lit}`Glob.continues_of_select`: a selected path continues the one it was selected from.
- Theorem {lit}`Glob.isTooLong_of_select`: selecting fails only for a path that is too long.
- Theorem {lit}`Glob.select_removeAt`: without a file, all paths but those to it are selected.
-/

namespace RequestScript

/-! ## Operations that can fail -/

section Failing

variable {α β ε : Type} {first : Except ε α} {next : α → Except ε β} {fault : ε}

/-- Two steps succeed exactly when the first does and the second does with its value. -/
theorem except_bind_eq_ok {result : β} :
    first.bind next = .ok result ↔ ∃ value, first = .ok value ∧ next value = .ok result := by
  cases first <;> simp [Except.bind]

/-- Two steps fail exactly when one of them does. -/
theorem except_bind_eq_error :
    first.bind next = .error fault ↔
      first = .error fault ∨ ∃ value, first = .ok value ∧ next value = .error fault := by
  cases first <;> simp [Except.bind]

/-- A result that is changed is the change of a result. -/
theorem except_map_eq_ok {f : α → β} {result : β} :
    first.map f = .ok result ↔ ∃ value, first = .ok value ∧ f value = result := by
  cases first <;> simp [Except.map]

/-- To change a result leaves the fault as it is. -/
theorem except_map_eq_error {f : α → β} : first.map f = .error fault ↔ first = .error fault := by
  cases first <;> simp [Except.map]

/-- A fault that is changed is the change of a fault. -/
theorem except_mapError_eq_error {δ : Type} {f : ε → δ} {cause : δ} :
    first.mapError f = .error cause ↔ ∃ found, first = .error found ∧ f found = cause := by
  cases first <;> simp [Except.mapError]

end Failing

namespace Path

/-- A path goes on from another one by more names. -/
def Continues (base path : Path) : Prop :=
  ∃ names, (∀ name ∈ names, IsStep name) ∧ path = { base with parts := base.parts ++ names }

/-- A path continues itself. -/
theorem Continues.refl (path : Path) : path.Continues path :=
  ⟨[], by simp, by simp⟩

/-- A path continues another one if it has more names behind it. -/
theorem Continues.of_names {base path : Path} (names : List Text)
    (hnames : ∀ name ∈ names, IsStep name)
    (h : Continues { base with parts := base.parts ++ names } path) : base.Continues path := by
  rcases h with ⟨others, hothers, rfl⟩
  refine ⟨names ++ others, fun name hname => ?_, by simp⟩
  rcases List.mem_append.mp hname with hin | hin
  · exact hnames name hin
  · exact hothers name hin

end Path

/-! ## What paths lead to -/

namespace FileTree

variable {tree : FileTree} {path : Path} {place : Location}

/-- Something stands at a path only where the path leads. -/
theorem locate_of_entry_eq_some {entry : Entry} (h : tree.entry? path = .ok (some entry)) :
    ∃ place, tree.locate path = .ok place ∧ tree.entryAt place = some entry := by
  unfold entry? at h
  split at h
  · rename_i place hlocate
    exact ⟨place, hlocate, Except.ok.inj h⟩
  · cases h
  · cases h

/-- The text of a path, or one of its names, takes too many octets. -/
def TooLong (path : Path) : Prop :=
  maxPathSize < octetCount path.text ∨ ∃ name ∈ path.parts, maxNameSize < octetCount name

/-- A fault that names a path that is too long. -/
def Fault.IsTooLong (fault : Fault) : Prop :=
  ∃ path, fault = .refused .tooLong path ∧ TooLong path

/-- Following names is refused for length only at a name that is too long. -/
theorem exists_long_of_walk {here : Location} {names : List Text}
    (h : tree.walk here names = .error .tooLong) : ∃ name ∈ names, maxNameSize < octetCount name := by
  induction names generalizing here with
  | nil => cases h
  | cons name names ih =>
    cases hentry : tree.entryAt here with
    | none =>
      rw [walk_cons_of_none hentry] at h
      cases h
    | some entry =>
      cases entry with
      | file octets =>
        rw [walk_cons_of_file hentry] at h
        cases h
      | directory =>
        rw [walk_cons_of_directory hentry] at h
        split at h
        · rename_i hlong
          exact ⟨name, List.mem_cons_self, hlong⟩
        · rcases ih h with ⟨other, hother, hlong⟩
          exact ⟨other, List.mem_cons_of_mem name hother, hlong⟩

/-- What is refused for being too long is. -/
theorem isTooLong_of_locate {other : Path} (h : tree.locate path = .error (.refused .tooLong other)) :
    Fault.IsTooLong (.refused .tooLong other) := by
  rw [locate_eq] at h
  split at h
  · rename_i fault hunusable
    have hrefusal := isRefusal_of_unusable? hunusable
    rw [Except.error.inj h] at hrefusal
    cases hrefusal
  · split at h
    · rename_i hlong
      cases h
      exact ⟨path, rfl, Or.inl hlong⟩
    · split at h
      · cases h
      · rename_i reason hwalk
        cases h
        exact ⟨path, rfl, Or.inr (exists_long_of_walk hwalk)⟩

/-- What stands where a path leads can be said, unless a path is too long. -/
theorem isTooLong_of_entry_eq_error {fault : Fault} (h : tree.entry? path = .error fault) :
    fault.IsTooLong := by
  unfold entry? at h
  split at h
  · cases h
  · rename_i other hlocate
    cases h
    exact isTooLong_of_locate hlocate
  · cases h

/-- There is something at a path when something stands there. -/
theorem exists?_eq (tree : FileTree) (path : Path) :
    tree.exists? path = (tree.entry? path).map Option.isSome := by
  rw [exists?]
  cases tree.entry? path <;> rfl

/-- There is a directory at a path when one stands there. -/
theorem isDirectory_eq (tree : FileTree) (path : Path) :
    tree.isDirectory path =
      (tree.entry? path).map fun entry => decide (entry = some .directory) := by
  rw [isDirectory]
  cases tree.entry? path <;> rfl

/-- There is a file at a path when one stands there. -/
theorem isFile_eq (tree : FileTree) (path : Path) :
    tree.isFile path =
      (tree.entry? path).map fun
        | some (.file _) => true
        | _ => false := by
  rw [isFile]
  cases tree.entry? path with
  | error fault => rfl
  | ok entry =>
    cases entry with
    | none => rfl
    | some entry => cases entry <;> rfl

/-- What is told to be a directory is one. -/
theorem hasDirectory_of_isDirectory (h : tree.isDirectory path = .ok true) :
    tree.HasDirectory path := by
  rw [isDirectory_eq, except_map_eq_ok] at h
  rcases h with ⟨entry, hentry, hdirectory⟩
  rw [decide_eq_true_iff] at hdirectory
  rw [hdirectory] at hentry
  exact locate_of_entry_eq_some hentry

/-- The files are what can be read. -/
theorem exists_read_of_isFile (h : tree.isFile path = .ok true) :
    ∃ octets, tree.read path = .ok octets := by
  rw [isFile_eq, except_map_eq_ok] at h
  rcases h with ⟨entry, hentry, hfile⟩
  split at hfile
  · rename_i octets
    exact ⟨octets, read_eq_ok.mpr (locate_of_entry_eq_some hentry)⟩
  · cases hfile

/-! ## Without a file -/

section Without

variable (hroot : place ≠ []) (hplace : tree.entryAt place ≠ some .directory)
include hroot hplace

/-- Without a file there is the same at every path that leads elsewhere. -/
theorem entry?_removeAt_of_ne (h : tree.destination path ≠ place) :
    entry? (tree.removeAt place) path = tree.entry? path := by
  rw [entry?_removeAt hroot hplace]
  cases tree.entry? path with
  | error fault => rfl
  | ok entry => rw [Except.map, if_neg h]

/-- Without a file there is nothing at a path that leads to its place. -/
theorem entry?_removeAt_of_eq (h : tree.destination path = place) {entry : Option Entry}
    (hentry : tree.entry? path = .ok entry) :
    entry? (tree.removeAt place) path = .ok none := by
  rw [entry?_removeAt hroot hplace, hentry, Except.map, if_pos h]

/-- Directories are where they were. -/
theorem isDirectory_removeAt (path : Path) :
    (tree.removeAt place).isDirectory path = tree.isDirectory path := by
  rw [isDirectory_eq, isDirectory_eq]
  by_cases h : tree.destination path = place
  · cases hentry : tree.entry? path with
    | error fault => rw [entry?_removeAt hroot hplace, hentry]; rfl
    | ok entry =>
      have hfile : entry ≠ some .directory := by
        rintro rfl
        rcases locate_of_entry_eq_some hentry with ⟨there, hlocate, hthere⟩
        rw [destination_of_locate hlocate] at h
        rw [h] at hthere
        exact hplace hthere
      rw [entry?_removeAt_of_eq hroot hplace h hentry]
      simp [Except.map, hfile]
  · rw [entry?_removeAt_of_ne hroot hplace h]

end Without

/-- Without a file, all other names below a directory are listed. -/
theorem children_removeAt (tree : FileTree) (here place : Location) :
    (tree.removeAt place).children here =
      (tree.children here).filter fun child => here ++ [child.1] ≠ place := by
  rw [children, children, removeAt, List.filterMap_filter, List.filter_filterMap]
  apply List.filterMap_congr
  rintro ⟨other, entry⟩ -
  dsimp only
  cases hlast : other.getLast? with
  | none => simp
  | some name =>
    by_cases hbelow : other.dropLast = here
    · have hother : other = here ++ [name] := by
        rw [← hbelow]
        exact (List.dropLast_append_getLast? name hlast).symm
      dsimp only
      rw [if_pos hbelow]
      by_cases hplace : other = place
      · simp [hplace, ← hother, Option.filter]
      · simp [hplace, ← hother, Option.filter]
    · simp [hbelow]

/-- The directories below a place are there without a file. -/
theorem WellFormed.directoriesBelow_removeAt (hwf : tree.WellFormed)
    (hplace : tree.entryAt place ≠ some .directory) (here : Location) :
    (tree.removeAt place).directoriesBelow here = tree.directoriesBelow here := by
  rw [directoriesBelow, directoriesBelow, removeAt, List.filterMap_filter]
  congr 1
  apply List.filterMap_congr
  rintro ⟨other, entry⟩ hmem
  by_cases hother : other = place
  · subst hother
    have hfile : entry ≠ .directory := by
      rintro rfl
      exact hplace (hwf.entryAt_of_mem hmem)
    simp [hfile]
  · simp [hother]

end FileTree

namespace Glob

open FileTree (IsEntryName)

/-! ## Gathering -/

section Gathering

variable {α β ε : Type} {search again : α → Except ε (List β)} {members : List α}
  {found : List β} {fault : ε}

/-- The results of a search at each member, one after another.  The first fault ends the
search. -/
def gather (search : α → Except ε (List β)) (members : List α) : Except ε (List β) := do
  return (← members.mapM search).flatten

/-- What a search gathers from the first member stands in front of the rest. -/
theorem gather_cons (search : α → Except ε (List β)) (member : α) (members : List α) :
    gather search (member :: members) =
      (search member).bind fun first => (gather search members).map (first ++ ·) := by
  rw [gather, gather, List.mapM_cons]
  cases search member with
  | error fault => rfl
  | ok first =>
    cases members.mapM search with
    | error fault => rfl
    | ok others => rfl

/-- A search gathers from all members exactly when it does from each of them. -/
theorem gather_cons_eq_ok {member : α} :
    gather search (member :: members) = .ok found ↔
      ∃ first rest, search member = .ok first ∧ gather search members = .ok rest ∧
        first ++ rest = found := by
  simp only [gather_cons, except_bind_eq_ok, except_map_eq_ok]
  constructor
  · rintro ⟨first, hfirst, rest, hrest, hfound⟩
    exact ⟨first, rest, hfirst, hrest, hfound⟩
  · rintro ⟨first, rest, hfirst, hrest, hfound⟩
    exact ⟨first, hfirst, rest, hrest, hfound⟩

/-- What is gathered is found at a member. -/
theorem exists_of_mem_gather (h : gather search members = .ok found) {result : β}
    (hresult : result ∈ found) :
    ∃ member ∈ members, ∃ part, search member = .ok part ∧ result ∈ part := by
  induction members generalizing found with
  | nil =>
    cases h
    cases hresult
  | cons member members ih =>
    rcases gather_cons_eq_ok.mp h with ⟨first, rest, hfirst, hrest, rfl⟩
    rcases List.mem_append.mp hresult with hin | hin
    · exact ⟨member, List.mem_cons_self, first, hfirst, hin⟩
    · rcases ih hrest hin with ⟨other, hother, part, hpart, hmem⟩
      exact ⟨other, List.mem_cons_of_mem member hother, part, hpart, hmem⟩

/-- Gathering fails with the fault of a member. -/
theorem exists_of_gather_eq_error (h : gather search members = .error fault) :
    ∃ member ∈ members, search member = .error fault := by
  induction members with
  | nil => cases h
  | cons member members ih =>
    rw [gather_cons, except_bind_eq_error] at h
    rcases h with hfirst | ⟨first, -, hrest⟩
    · exact ⟨member, List.mem_cons_self, hfirst⟩
    · rcases ih (except_map_eq_error.mp hrest) with ⟨other, hother, hfault⟩
      exact ⟨other, List.mem_cons_of_mem member hother, hfault⟩

/-- A search that finds less, at fewer members. -/
theorem gather_filter {keep : α → Bool} {retain : β → Bool}
    (hkeep : ∀ member ∈ members, keep member = true → ∀ part, search member = .ok part →
      again member = .ok (part.filter retain))
    (hdrop : ∀ member ∈ members, keep member = false → ∀ part, search member = .ok part →
      part.filter retain = [])
    (h : gather search members = .ok found) :
    gather again (members.filter keep) = .ok (found.filter retain) := by
  induction members generalizing found with
  | nil =>
    cases h
    rfl
  | cons member members ih =>
    rcases gather_cons_eq_ok.mp h with ⟨first, rest, hfirst, hrest, rfl⟩
    have hothers := ih (fun other hother => hkeep other (List.mem_cons_of_mem member hother))
      (fun other hother => hdrop other (List.mem_cons_of_mem member hother)) hrest
    rw [List.filter_append]
    by_cases hmember : keep member = true
    · rw [List.filter_cons_of_pos hmember]
      apply gather_cons_eq_ok.mpr
      exact ⟨_, _, hkeep member List.mem_cons_self hmember first hfirst, hothers, rfl⟩
    · rw [List.filter_cons_of_neg hmember, hothers,
        hdrop member List.mem_cons_self (Bool.eq_false_iff.mpr hmember) first hfirst,
        List.nil_append]

end Gathering

/-! ## Steps -/

variable {tree : FileTree} {steps rest : List Step} {base path : Path} {paths : List Path}

/-- A step with a name goes on where something of that name stands. -/
theorem select_named (tree : FileTree) (name : Text) (rest : List Step) (base : Path) :
    select tree (.named name :: rest) base =
      (if rest.isEmpty then tree.exists? (base.child name)
        else tree.isDirectory (base.child name)).bind fun there =>
          if there then select tree rest (base.child name) else .ok [] := by
  rw [select]
  cases rest with
  | nil => rfl
  | cons step rest => rfl

/-- A step with a pattern goes on at every child that the pattern describes. -/
theorem select_wild (tree : FileTree) (pattern : List Piece) (rest : List Step) (base : Path) :
    select tree (.wild pattern :: rest) base =
      ((tree.locate base).map tree.children).bind
        (gather fun child =>
          if (rest.isEmpty || child.2 = .directory) && describes pattern child.1 then
            select tree rest (base.child child.1)
          else .ok []) := by
  rw [select, childrenOf]
  cases tree.locate base with
  | error fault => rfl
  | ok place => rfl

/-- A step to any depth goes on in the directory and in all directories below it. -/
theorem select_anyDepth (tree : FileTree) (rest : List Step) (base : Path) :
    select tree (.anyDepth :: rest) base =
      (tree.locate base).bind fun place =>
        (gather (fun way => select tree rest { base with parts := base.parts ++ way })
          (tree.directoriesBelow place)).map List.eraseDups := by
  rw [select]
  cases tree.locate base with
  | error fault => rfl
  | ok place =>
    simp only [bind, Except.bind, gather]
    cases (tree.directoriesBelow place).mapM fun way =>
        select tree rest { base with parts := base.parts ++ way } with
    | error fault => rfl
    | ok found => rfl

/-! ## Names of selected paths -/

/-- Every result of a list of computations is the result of one of them. -/
theorem exists_of_mem_mapM {α β ε : Type} {f : α → Except ε β} {members : List α}
    {results : List β} (h : members.mapM f = .ok results) {result : β} (hresult : result ∈ results) :
    ∃ member ∈ members, f member = .ok result := by
  induction members generalizing results with
  | nil =>
    cases h
    cases hresult
  | cons member members ih =>
    rw [List.mapM_cons] at h
    rcases except_bind_eq_ok.mp h with ⟨first, hfirst, h⟩
    rcases except_bind_eq_ok.mp h with ⟨others, hothers, h⟩
    cases h
    rcases List.mem_cons.mp hresult with rfl | hin
    · exact ⟨member, List.mem_cons_self, hfirst⟩
    · rcases ih hothers hin with ⟨other, hother, hf⟩
      exact ⟨other, List.mem_cons_of_mem member hother, hf⟩

/-- The names that steps take as they are can be steps of a path. -/
def NamesAreSteps (steps : List Step) : Prop :=
  ∀ name, .named name ∈ steps → Path.IsStep name

/-- The names in later steps can be names of paths too. -/
theorem NamesAreSteps.tail {step : Step} (h : NamesAreSteps (step :: rest)) : NamesAreSteps rest :=
  fun name hname => h name (List.mem_cons_of_mem step hname)

/-- A step with a name has the name that is written. -/
theorem name_of_stepOf {name other : Text} (h : stepOf name = .ok (.named other)) : name = other := by
  rw [stepOf] at h
  split at h
  · cases h
  · split at h
    · cases h
    · split at h
      · cases h
      · cases h
        rfl

/-- The names in a pattern can be names of paths. -/
theorem namesAreSteps_of_stepsOf {text : Text} (h : stepsOf text = .ok steps) :
    NamesAreSteps steps := by
  intro name hname
  rw [stepsOf] at h
  split at h
  · cases h
  · dsimp only at h
    split at h
    · cases h
    · split at h
      · cases h
      · rcases except_bind_eq_ok.mp h with ⟨named, hnamed, h⟩
        cases h
        rcases List.mem_append.mp hname with hin | hin
        · rcases exists_of_mem_mapM hnamed hin with ⟨part, hpart, hstep⟩
          rw [← name_of_stepOf hstep]
          exact Path.isStep_of_mem_partsOf hpart
        · split at hin
          · cases List.mem_singleton.mp hin
          · cases hin

/-- A selected path continues the one that it was selected from. -/
theorem continues_of_select (hwf : tree.WellFormed) (hsteps : NamesAreSteps steps)
    (h : select tree steps base = .ok paths) (hpath : path ∈ paths) : base.Continues path := by
  induction steps generalizing base paths path with
  | nil =>
    cases h
    rw [List.mem_singleton.mp hpath]
    exact .refl base
  | cons step rest ih =>
    have hrest := hsteps.tail
    cases step with
    | directoryOnly =>
      cases h
      rw [List.mem_singleton.mp hpath]
      exact .refl base
    | named name =>
      have hname : Path.IsStep name := hsteps name List.mem_cons_self
      rw [select_named, except_bind_eq_ok] at h
      rcases h with ⟨there, -, h⟩
      split at h
      · apply Path.Continues.of_names [name]
        · simpa using hname
        · exact ih hrest h hpath
      · cases h
        cases hpath
    | wild pattern =>
      rw [select_wild, except_bind_eq_ok] at h
      rcases h with ⟨children, hchildren, h⟩
      rcases except_map_eq_ok.mp hchildren with ⟨place, -, rfl⟩
      rcases exists_of_mem_gather h hpath with ⟨⟨name, entry⟩, hchild, part, hpart, hin⟩
      have hname := (hwf.entryAt_of_mem_children hchild).2.toIsStep
      split at hpart
      · apply Path.Continues.of_names [name]
        · simpa using hname
        · exact ih hrest hpart hin
      · cases hpart
        cases hin
    | anyDepth =>
      rw [select_anyDepth, except_bind_eq_ok] at h
      rcases h with ⟨place, -, h⟩
      rcases except_map_eq_ok.mp h with ⟨found, hfound, rfl⟩
      rcases exists_of_mem_gather hfound (List.mem_eraseDups.mp hpath) with
        ⟨way, hway, part, hpart, hin⟩
      apply Path.Continues.of_names way _ (ih hrest hpart hin)
      rcases hwf.of_mem_directoriesBelow hway with rfl | ⟨-, hnames⟩
      · simp
      · exact fun name hname => (hnames name hname).toIsStep

/-! ## Faults -/

/-- A path that reaches a place fails to lead there only by its length. -/
theorem isTooLong_of_reaches {place : Location} {fault : FileTree.Fault}
    (hreach : tree.Reaches base place) (h : tree.locate base = .error fault) :
    fault.IsTooLong := by
  rcases hreach.locate with hlocate | hlocate
  · rw [hlocate] at h
    cases h
  · rw [hlocate] at h
    cases h
    exact FileTree.isTooLong_of_locate hlocate

/-- Selecting fails only for a path that is too long. -/
theorem isTooLong_of_select (hwf : tree.WellFormed) {place : Location} {fault : FileTree.Fault}
    (hreach : tree.Reaches base place) (h : select tree steps base = .error fault) :
    fault.IsTooLong := by
  induction steps generalizing base place with
  | nil => cases h
  | cons step rest ih =>
    cases step with
    | directoryOnly => cases h
    | named name =>
      rw [select_named, except_bind_eq_error] at h
      rcases h with h | ⟨there, hthere, h⟩
      · split at h
        · rw [FileTree.exists?_eq, except_map_eq_error] at h
          exact FileTree.isTooLong_of_entry_eq_error h
        · rw [FileTree.isDirectory_eq, except_map_eq_error] at h
          exact FileTree.isTooLong_of_entry_eq_error h
      · split at h
        · rename_i hfound
          split at hthere
          · rename_i hlast
            rw [List.isEmpty_iff.mp hlast] at h
            cases h
          · subst hfound
            exact ih (.of_hasDirectory (FileTree.hasDirectory_of_isDirectory hthere)) h
        · cases h
    | wild pattern =>
      rw [select_wild, except_bind_eq_error] at h
      rcases h with h | ⟨children, hchildren, h⟩
      · exact isTooLong_of_reaches hreach (except_map_eq_error.mp h)
      · rcases except_map_eq_ok.mp hchildren with ⟨there, hlocate, rfl⟩
        rcases exists_of_gather_eq_error h with ⟨⟨name, entry⟩, hchild, hfault⟩
        cases hreach.eq_of_locate hlocate
        rcases hwf.entryAt_of_mem_children hchild with ⟨hentry, hname⟩
        split at hfault
        · rename_i hmatch
          simp only [Bool.and_eq_true, Bool.or_eq_true, decide_eq_true_iff] at hmatch
          rcases hmatch.1 with hlast | hdirectory
          · rw [List.isEmpty_iff.mp hlast] at hfault
            cases hfault
          · rw [hdirectory] at hentry
            exact ih (hreach.append hwf (by simpa using hname) hentry) hfault
        · cases hfault
    | anyDepth =>
      rw [select_anyDepth, except_bind_eq_error] at h
      rcases h with h | ⟨there, hlocate, h⟩
      · exact isTooLong_of_reaches hreach h
      · rcases exists_of_gather_eq_error (except_map_eq_error.mp h) with ⟨way, hway, hfault⟩
        cases hreach.eq_of_locate hlocate
        rcases hwf.of_mem_directoriesBelow hway with rfl | ⟨hentry, hnames⟩
        · rw [List.append_nil] at hfault
          exact ih hreach hfault
        · exact ih (hreach.append hwf hnames hentry) hfault

/-! ## Without a file -/

/-- To leave out repetitions and to leave out members can be done in any order. -/
theorem filter_eraseDups {α : Type} [DecidableEq α] (keep : α → Bool) (members : List α) :
    members.eraseDups.filter keep = (members.filter keep).eraseDups := by
  match members with
  | [] => rfl
  | member :: others =>
    have hothers := filter_eraseDups keep (others.filter fun other => !other == member)
    rw [List.filter_filter] at hothers
    rw [List.eraseDups_cons]
    by_cases hmember : keep member = true
    · rw [List.filter_cons_of_pos hmember, List.filter_cons_of_pos hmember, List.eraseDups_cons,
        hothers, List.filter_filter]
      simp only [Bool.and_comm]
    · rw [List.filter_cons_of_neg hmember, List.filter_cons_of_neg hmember, hothers]
      -- a dropped member takes only itself along
      congr 1
      apply List.filter_congr
      intro other _
      by_cases hother : other = member
      · subst hother
        simp [hmember]
      · simp [hother]
termination_by members.length
decreasing_by exact Nat.lt_succ_of_le (List.length_filter_le _ _)

/-- Without what stands at a place, steps select all paths but those to it. -/
def Forgets (tree : FileTree) (place : Location) (steps : List Step) : Prop :=
  ∀ base paths, tree.destination base ≠ place → select tree steps base = .ok paths →
    select (tree.removeAt place) steps base =
      .ok (paths.filter fun path => tree.destination path ≠ place)

/-- No step is left, so the base alone is selected, and it is not the place. -/
theorem Forgets.nil (tree : FileTree) (place : Location) : Forgets tree place [] := by
  intro base paths hbase h
  cases h
  rw [List.filter_cons_of_pos (by simpa using hbase)]
  rfl

/-- A step to directories only selects no file, so it forgets none. -/
theorem Forgets.directoryOnly (tree : FileTree) (place : Location) (rest : List Step) :
    Forgets tree place (.directoryOnly :: rest) := by
  intro base paths hbase h
  cases h
  rw [List.filter_cons_of_pos (by simpa using hbase)]
  rfl

section Forgetting

variable {place : Location} (hroot : place ≠ []) (hplace : tree.entryAt place ≠ some .directory)
include hroot hplace

/-- The path to the file itself is selected by a last step only. -/
theorem select_named_of_destination {name : Text}
    (hnext : tree.destination (base.child name) = place)
    (h : select tree (.named name :: rest) base = .ok paths) :
    (paths = [] ∨ paths = [base.child name]) ∧
      select (tree.removeAt place) (.named name :: rest) base = .ok [] := by
  rw [select_named, except_bind_eq_ok] at h
  rcases h with ⟨there, hthere, h⟩
  cases rest with
  | nil =>
    simp only [List.isEmpty_nil, if_true] at hthere
    rw [FileTree.exists?_eq, except_map_eq_ok] at hthere
    rcases hthere with ⟨entry, hentry, rfl⟩
    constructor
    · split at h
      · cases h
        exact Or.inr rfl
      · cases h
        exact Or.inl rfl
    · rw [select_named, List.isEmpty_nil, if_pos rfl, FileTree.exists?_eq,
        FileTree.entry?_removeAt_of_eq hroot hplace hnext hentry]
      rfl
  | cons step rest =>
    have hnone : there = false := by
      rw [← Bool.not_eq_true]
      rintro rfl
      rcases FileTree.hasDirectory_of_isDirectory hthere with ⟨other, hlocate, hentry⟩
      rw [FileTree.destination_of_locate hlocate] at hnext
      rw [hnext] at hentry
      exact hplace hentry
    subst hnone
    cases h
    refine ⟨Or.inl rfl, ?_⟩
    rw [select_named]
    simp only [List.isEmpty_cons, Bool.false_eq_true, if_false] at hthere ⊢
    rw [FileTree.isDirectory_removeAt hroot hplace, hthere]
    rfl

/-- A step with a name forgets a place if the steps behind it do. -/
theorem Forgets.named {name : Text} (hrest : Forgets tree place rest) :
    Forgets tree place (.named name :: rest) := by
  intro base paths _ h
  by_cases hnext : tree.destination (base.child name) = place
  · rcases select_named_of_destination hroot hplace hnext h with ⟨rfl | rfl, hgone⟩
    · exact hgone
    · rw [hgone, List.filter_cons_of_neg (by simpa using hnext)]
      rfl
  · rw [select_named, except_bind_eq_ok] at h
    rcases h with ⟨there, hthere, h⟩
    have hsame : (if rest.isEmpty then (tree.removeAt place).exists? (base.child name)
        else (tree.removeAt place).isDirectory (base.child name)) = .ok there := by
      rw [FileTree.exists?_eq, FileTree.entry?_removeAt_of_ne hroot hplace hnext,
        FileTree.isDirectory_removeAt hroot hplace, ← FileTree.exists?_eq, hthere]
    rw [select_named, hsame]
    dsimp only [Except.bind]
    split at h
    · rename_i hfound
      rw [if_pos hfound]
      exact hrest _ _ hnext h
    · rename_i hfound
      cases h
      rw [if_neg hfound]
      rfl

/-- A step with a pattern forgets a place if the steps behind it do. -/
theorem Forgets.wild (hwf : tree.WellFormed) {pattern : List Piece}
    (hrest : Forgets tree place rest) : Forgets tree place (.wild pattern :: rest) := by
  intro base paths _ h
  rw [select_wild, except_bind_eq_ok] at h
  rcases h with ⟨children, hchildren, h⟩
  rcases except_map_eq_ok.mp hchildren with ⟨here, hlocate, rfl⟩
  have hhere := FileTree.destination_of_locate hlocate
  rw [select_wild, FileTree.locate_removeAt_of_ok hroot hplace hlocate]
  dsimp only [Except.map, Except.bind]
  rw [FileTree.children_removeAt]
  apply gather_filter _ _ h
  · rintro ⟨name, entry⟩ hchild hkeep part hpart
    dsimp only at hkeep hpart ⊢
    split at hpart
    · rename_i hmatch
      rw [if_pos hmatch]
      apply hrest _ _ _ hpart
      rw [FileTree.destination_child (hwf.entryAt_of_mem_children hchild).2, hhere]
      simpa using hkeep
    · rename_i hmatch
      rw [if_neg hmatch]
      cases hpart
      rfl
  · rintro ⟨name, entry⟩ hchild hdrop part hpart
    rcases hwf.entryAt_of_mem_children hchild with ⟨hentry, hname⟩
    have hsame : here ++ [name] = place := by simpa using hdrop
    dsimp only at hpart
    split at hpart
    · rename_i hmatch
      have hlast : rest = [] := by
        have hfile : entry ≠ .directory := by
          rintro rfl
          rw [hsame] at hentry
          exact hplace hentry
        simpa [hfile] using (Bool.and_eq_true_iff.mp hmatch).1
      subst hlast
      cases hpart
      rw [List.filter_cons_of_neg _, List.filter_nil]
      simp [FileTree.destination_child hname, hhere, hsame]
    · cases hpart
      rfl

/-- A step to any depth forgets a place if the steps behind it do. -/
theorem Forgets.anyDepth (hwf : tree.WellFormed) (hrest : Forgets tree place rest) :
    Forgets tree place (.anyDepth :: rest) := by
  intro base paths hbase h
  rw [select_anyDepth, except_bind_eq_ok] at h
  rcases h with ⟨here, hlocate, h⟩
  rcases except_map_eq_ok.mp h with ⟨found, hfound, rfl⟩
  have hhere := FileTree.destination_of_locate hlocate
  rw [select_anyDepth, FileTree.locate_removeAt_of_ok hroot hplace hlocate]
  dsimp only [Except.bind]
  rw [hwf.directoriesBelow_removeAt hplace, filter_eraseDups, except_map_eq_ok]
  refine ⟨_, ?_, rfl⟩
  rw [← List.filter_true (tree.directoriesBelow here)]
  apply gather_filter _ _ hfound
  · intro way hway _ part hpart
    apply hrest _ _ _ hpart
    rcases hwf.of_mem_directoriesBelow hway with rfl | ⟨hentry, hnames⟩
    · rwa [List.append_nil]
    · rw [FileTree.destination_append, FileTree.foldl_follow hnames, hhere]
      rintro rfl
      exact hplace hentry
  · intro way hway hdrop
    cases hdrop

/-- Without a file, all paths but those to it are selected. -/
theorem select_removeAt (hwf : tree.WellFormed) (steps : List Step) :
    Forgets tree place steps := by
  induction steps with
  | nil => exact .nil tree place
  | cons step rest ih =>
    cases step with
    | named name => exact .named hroot hplace ih
    | wild pattern => exact .wild hroot hplace hwf ih
    | anyDepth => exact .anyDepth hroot hplace hwf ih
    | directoryOnly => exact .directoryOnly tree place rest

end Forgetting

end Glob
end RequestScript
