import RequestScript.Conversion.Input
import RequestScript.Proofs.Files.Selection

/-!
# Listed files

The feature files of an input are those selected paths that lead to files, in the order of paths.
So each of them can be read, and its last name can be a name of a path.  In the tree of a file
system they can be listed unless a path is too long, and without one of them the others are
listed in the same order.

Main results:

- Theorem {lit}`Path.le_total` and theorem {lit}`Path.le_trans`: paths are ordered.
- Theorem {lit}`Input.exists_read_of_mem_files` and theorem {lit}`Input.isStep_of_mem_files`: what
  is listed.
- Theorem {lit}`Input.isTooLong_of_files`: why files can not be listed.
- Theorem {lit}`Input.files_removeAt`: what is listed without a file.
-/

namespace RequestScript

/-! ## The order of paths -/

namespace Text

/-- Texts are compared at their first characters, and behind them where these are equal. -/
theorem le_cons_cons {c d : Char} {a b : Text} :
    le (c :: a) (d :: b) = true ↔
      codePointOf c < codePointOf d ∨ (c = d ∧ le a b = true) := by
  simp [le]

/-- Of two texts one stands before the other. -/
theorem le_total (a b : Text) : le a b = true ∨ le b a = true := by
  induction a generalizing b with
  | nil => exact Or.inl rfl
  | cons c a ih =>
    cases b with
    | nil => exact Or.inr rfl
    | cons d b =>
      rw [le_cons_cons, le_cons_cons]
      rcases Nat.lt_trichotomy (codePointOf c) (codePointOf d) with hlt | heq | hgt
      · exact Or.inl (Or.inl hlt)
      · have hsame := codePointOf_injective heq
        rcases ih b with hle | hle
        · exact Or.inl (Or.inr ⟨hsame, hle⟩)
        · exact Or.inr (Or.inr ⟨hsame.symm, hle⟩)
      · exact Or.inr (Or.inl hgt)

/-- The order of texts is transitive. -/
theorem le_trans {a b c : Text} (hab : le a b = true) (hbc : le b c = true) : le a c = true := by
  induction a generalizing b c with
  | nil => rfl
  | cons x a ih =>
    cases b with
    | nil => cases hab
    | cons y b =>
      cases c with
      | nil => cases hbc
      | cons z c =>
        rw [le_cons_cons] at hab hbc ⊢
        rcases hab with hxy | ⟨rfl, hab⟩
        · rcases hbc with hyz | ⟨rfl, -⟩
          · exact Or.inl (Nat.lt_trans hxy hyz)
          · exact Or.inl hxy
        · rcases hbc with hyz | ⟨rfl, hbc⟩
          · exact Or.inl hyz
          · exact Or.inr ⟨rfl, ih hab hbc⟩

/-- Different texts are not both before each other. -/
theorem le_antisymm {a b : Text} (hab : le a b = true) (hba : le b a = true) : a = b := by
  induction a generalizing b with
  | nil =>
    cases b with
    | nil => rfl
    | cons d b => cases hba
  | cons c a ih =>
    cases b with
    | nil => cases hab
    | cons d b =>
      rw [le_cons_cons] at hab hba
      rcases hab with hcd | ⟨rfl, hab⟩
      · rcases hba with hdc | ⟨rfl, -⟩
        · omega
        · omega
      · rcases hba with hdc | ⟨-, hba⟩
        · omega
        · rw [ih hab hba]

end Text

namespace Path

/-- Of two lists of names one stands before the other. -/
theorem partsLe_total (a b : List Text) : partsLe a b = true ∨ partsLe b a = true := by
  induction a generalizing b with
  | nil => exact Or.inl rfl
  | cons c a ih =>
    cases b with
    | nil => exact Or.inr rfl
    | cons d b =>
      rw [partsLe, partsLe]
      by_cases hsame : c = d
      · rw [if_pos hsame, if_pos hsame.symm]
        exact ih b
      · rw [if_neg hsame, if_neg (Ne.symm hsame)]
        exact Text.le_total c d

/-- The order of lists of names is transitive. -/
theorem partsLe_trans {a b c : List Text} (hab : partsLe a b = true) (hbc : partsLe b c = true) :
    partsLe a c = true := by
  induction a generalizing b c with
  | nil => rfl
  | cons x a ih =>
    cases b with
    | nil => cases hab
    | cons y b =>
      cases c with
      | nil => cases hbc
      | cons z c =>
        rw [partsLe] at hab hbc ⊢
        by_cases hxy : x = y
        · subst hxy
          rw [if_pos rfl] at hab
          by_cases hxz : x = z
          · rw [if_pos hxz] at hbc ⊢
            exact ih hab hbc
          · rw [if_neg hxz] at hbc ⊢
            exact hbc
        · rw [if_neg hxy] at hab
          by_cases hyz : y = z
          · subst hyz
            rwa [if_neg hxy]
          · rw [if_neg hyz] at hbc
            have hxz : x ≠ z := by
              rintro rfl
              exact hxy (Text.le_antisymm hab hbc)
            rw [if_neg hxz]
            exact Text.le_trans hab hbc

/-- Of two paths one comes first. -/
theorem le_total (a b : Path) : (le a b || le b a) = true := by
  rw [Bool.or_eq_true]
  exact partsLe_total a.sortKey b.sortKey

theorem le_trans (a b c : Path) (hab : le a b = true) (hbc : le b c = true) : le a c = true :=
  partsLe_trans hab hbc

end Path

/-! ## Sorting what is left -/

section Sorting

variable {α : Type} {order : α → α → Bool}

/-- A list is cut in one way only into members with a property and members without it. -/
theorem append_inj_of_forall (keep : α → Bool) {front back front' back' : List α}
    (h : front ++ back = front' ++ back') (hfront : ∀ x ∈ front, keep x = true)
    (hback : ∀ x ∈ back, keep x = false) (hfront' : ∀ x ∈ front', keep x = true)
    (hback' : ∀ x ∈ back', keep x = false) : front = front' ∧ back = back' := by
  have hkept := congrArg (List.filter keep) h
  rw [List.filter_append, List.filter_append, List.filter_eq_self.mpr hfront,
    List.filter_eq_self.mpr hfront', List.filter_eq_nil_iff.mpr (by simpa using hback),
    List.filter_eq_nil_iff.mpr (by simpa using hback'), List.append_nil, List.append_nil] at hkept
  subst hkept
  exact ⟨rfl, List.append_cancel_left h⟩

/-- Members can be dropped before or after sorting. -/
theorem filter_mergeSort (htrans : ∀ a b c, order a b = true → order b c = true → order a c = true)
    (htotal : ∀ a b, (order a b || order b a) = true) (keep : α → Bool) (members : List α) :
    (members.mergeSort order).filter keep = (members.filter keep).mergeSort order := by
  induction members with
  | nil => simp
  | cons member members ih =>
    rcases List.mergeSort_cons htrans htotal member members with
      ⟨front, back, hsorted, hothers, hfront⟩
    have hback : ∀ x ∈ back, order member x = true := by
      have hpairs := List.pairwise_mergeSort htrans htotal (member :: members)
      rw [hsorted, List.pairwise_append, List.pairwise_cons] at hpairs
      exact hpairs.2.1.1
    rw [hothers, List.filter_append] at ih
    rw [hsorted, List.filter_append]
    by_cases hmember : keep member = true
    · rw [List.filter_cons_of_pos hmember, List.filter_cons_of_pos hmember]
      rcases List.mergeSort_cons htrans htotal member (members.filter keep) with
        ⟨front', back', hsorted', hothers', hfront'⟩
      have hback' : ∀ x ∈ back', order member x = true := by
        have hpairs := List.pairwise_mergeSort htrans htotal (member :: members.filter keep)
        rw [hsorted', List.pairwise_append, List.pairwise_cons] at hpairs
        exact hpairs.2.1.1
      rw [hothers'] at ih
      have hcut := append_inj_of_forall (fun x => !order member x) ih
        (fun x hx => hfront x (List.mem_of_mem_filter hx))
        (fun x hx => by simpa using hback x (List.mem_of_mem_filter hx)) hfront'
        (fun x hx => by simpa using hback' x hx)
      rw [hsorted', hcut.1, hcut.2]
    · rw [List.filter_cons_of_neg hmember, List.filter_cons_of_neg hmember, ih]

end Sorting

/-! ## Listing -/

/-- A member as the only result of a test, or no result. -/
def kept {α ε : Type} (test : α → Except ε Bool) (member : α) : Except ε (List α) :=
  (test member).map fun keep => if keep then [member] else []

/-- A filter that can fail gathers the members that it keeps, behind those found before. -/
theorem filterAuxM_eq_gather {α ε : Type} (test : α → Except ε Bool) (members found : List α) :
    members.filterAuxM test found =
      (Glob.gather (kept test) members).map fun rest => rest.reverse ++ found := by
  induction members generalizing found with
  | nil => rfl
  | cons member members ih =>
    rw [Glob.gather_cons, List.filterAuxM, kept]
    cases test member with
    | error fault => rfl
    | ok keep =>
      simp only [bind, Except.bind, Except.map, ih]
      cases Glob.gather (kept test) members with
      | error fault => rfl
      | ok rest => cases keep <;> simp

/-- A filter that can fail gathers the members that it keeps. -/
theorem filterM_eq_gather {α ε : Type} (test : α → Except ε Bool) (members : List α) :
    members.filterM test = Glob.gather (kept test) members := by
  rw [List.filterM, filterAuxM_eq_gather]
  cases Glob.gather (kept test) members with
  | error fault => rfl
  | ok found => simp [bind, Except.bind, Except.map, pure, Except.pure]

namespace Input

variable {input : Input} {tree : FileTree} {paths : List Path} {path : Path}

/-- The selected paths that lead to files are listed in order. -/
theorem selected_eq (input : Input) (tree : FileTree) (steps : List Glob.Step) :
    input.selected tree steps =
      (Glob.select tree steps input.directory).bind fun paths =>
        (Glob.gather (kept tree.isFile) paths).map (·.mergeSort Path.le) := by
  rw [selected]
  cases Glob.select tree steps input.directory with
  | error fault => rfl
  | ok paths =>
    simp only [bind, Except.bind, filterM_eq_gather]
    cases Glob.gather (kept tree.isFile) paths with
    | error fault => rfl
    | ok found => rfl

/-- Files are selected exactly when the search and all its looks at what it has found succeed. -/
theorem selected_eq_ok {steps : List Glob.Step} :
    input.selected tree steps = .ok paths ↔
      ∃ found files, Glob.select tree steps input.directory = .ok found ∧
        Glob.gather (kept tree.isFile) found = .ok files ∧ files.mergeSort Path.le = paths := by
  simp only [selected_eq, except_bind_eq_ok, except_map_eq_ok]
  constructor
  · rintro ⟨found, hfound, files, hfiles, hsorted⟩
    exact ⟨found, files, hfound, hfiles, hsorted⟩
  · rintro ⟨found, files, hfound, hfiles, hsorted⟩
    exact ⟨found, hfound, files, hfiles, hsorted⟩

/-- The files are not looked for when the directory is missing. -/
theorem files_of_missing (h : input.exists tree = .ok false) : input.files tree = .ok [] := by
  rw [files, h]
  rfl

/-- Files are listed only where it can be said whether there is a directory. -/
theorem exists_of_files (h : input.files tree = .ok paths) :
    ∃ there, input.exists tree = .ok there := by
  rw [files] at h
  cases hthere : input.exists tree with
  | ok there => exact ⟨there, rfl⟩
  | error fault =>
    rw [hthere] at h
    cases h

/-- In a directory that is there the files are those that the steps of the pattern select. -/
theorem files_of_steps {steps : List Glob.Step} (hthere : input.exists tree = .ok true)
    (hsteps : Glob.stepsOf input.pattern = .ok steps) :
    input.files tree = (input.selected tree steps).mapError .path := by
  rw [files, hthere, hsteps]
  rfl

/-- Files are listed exactly when there is no directory, and then none, or its files are selected.
-/
theorem files_eq_ok :
    input.files tree = .ok paths ↔
      (input.exists tree = .ok false ∧ paths = []) ∨
        (input.exists tree = .ok true ∧ ∃ steps, Glob.stepsOf input.pattern = .ok steps ∧
          input.selected tree steps = .ok paths) := by
  cases hthere : input.exists tree with
  | error fault => simp [files, hthere, Except.mapError, bind, Except.bind]
  | ok there =>
    cases there with
    | false => simp [files_of_missing hthere, eq_comm]
    | true =>
      cases hsteps : Glob.stepsOf input.pattern with
      | error fault => simp [files, hthere, hsteps, Except.mapError, bind, Except.bind]
      | ok steps =>
        rw [files_of_steps hthere hsteps]
        cases hselected : input.selected tree steps with
        | error fault => simp [hselected, Except.mapError]
        | ok found => simp [hselected, Except.mapError]

/-- Files that are found in order are listed in this order. -/
theorem files_of_sorted {steps : List Glob.Step} {found : List Path}
    (hthere : input.exists tree = .ok true) (hsteps : Glob.stepsOf input.pattern = .ok steps)
    (hfound : Glob.select tree steps input.directory = .ok found)
    (hfiles : Glob.gather (kept tree.isFile) found = .ok paths)
    (hsorted : paths.Pairwise fun a b => Path.le a b = true) : input.files tree = .ok paths := by
  apply files_eq_ok.mpr
  right
  refine ⟨hthere, steps, hsteps, ?_⟩
  apply selected_eq_ok.mpr
  exact ⟨found, paths, hfound, hfiles, List.mergeSort_of_pairwise hsorted⟩

/-- A listed path is selected and leads to a file. -/
theorem selected_of_mem_files (h : input.files tree = .ok paths) (hpath : path ∈ paths) :
    ∃ steps found, Glob.stepsOf input.pattern = .ok steps ∧
      Glob.select tree steps input.directory = .ok found ∧ path ∈ found ∧
      tree.HasDirectory input.directory ∧ tree.isFile path = .ok true := by
  rcases files_eq_ok.mp h with ⟨-, rfl⟩ | ⟨hthere, steps, hsteps, hselected⟩
  · cases hpath
  · rcases selected_eq_ok.mp hselected with ⟨found, files, hfound, hfiles, rfl⟩
    rw [List.mem_mergeSort] at hpath
    rcases Glob.exists_of_mem_gather hfiles hpath with ⟨member, hmember, part, hpart, hin⟩
    rcases except_map_eq_ok.mp hpart with ⟨keep, hkeep, rfl⟩
    split at hin
    · rename_i htrue
      rw [List.mem_singleton.mp hin]
      subst htrue
      exact ⟨steps, found, hsteps, hfound, hmember,
        FileTree.hasDirectory_of_isDirectory hthere, hkeep⟩
    · cases hin

/-- A listed file can be read. -/
theorem exists_read_of_mem_files (h : input.files tree = .ok paths) (hpath : path ∈ paths) :
    ∃ octets, tree.read path = .ok octets := by
  rcases selected_of_mem_files h hpath with ⟨steps, found, -, -, -, -, hfile⟩
  exact FileTree.exists_read_of_isFile hfile

/-- The last name of a listed file can be a name of a path. -/
theorem isStep_of_mem_files (hwf : tree.WellFormed) (h : input.files tree = .ok paths)
    (hpath : path ∈ paths) : Path.IsStep path.name := by
  rcases selected_of_mem_files h hpath with
    ⟨steps, found, hsteps, hfound, hmem, ⟨place, hlocate, hdirectory⟩, hfile⟩
  rcases Glob.continues_of_select hwf (Glob.namesAreSteps_of_stepsOf hsteps) hfound hmem with
    ⟨names, hnames, rfl⟩
  by_cases hempty : names = []
  · -- the directory itself is no file
    subst hempty
    rcases FileTree.exists_read_of_isFile hfile with ⟨octets, hread⟩
    rcases FileTree.read_eq_ok.mp hread with ⟨there, hthere, hentry⟩
    rw [List.append_nil] at hthere
    rw [hthere] at hlocate
    cases hlocate
    rw [hentry] at hdirectory
    cases hdirectory
  · apply hnames
    rw [Path.name, List.getLastD_eq_getLast?, List.getLast?_append_of_ne_nil _ hempty,
      List.getLast?_eq_some_getLast hempty]
    exact List.getLast_mem hempty

/-- In the tree of a file system, files are listed unless a path is too long. -/
theorem isTooLong_of_files (hwf : tree.WellFormed) (hthere : input.exists tree = .ok true)
    {steps : List Glob.Step} (hsteps : Glob.stepsOf input.pattern = .ok steps)
    {fault : SearchFault} (h : input.files tree = .error fault) :
    ∃ cause : FileTree.Fault, fault = .path cause ∧ cause.IsTooLong := by
  rw [files_of_steps hthere hsteps] at h
  cases hselected : input.selected tree steps with
  | ok found =>
    rw [hselected] at h
    cases h
  | error cause =>
    rw [hselected] at h
    cases h
    have hreach := FileTree.Reaches.of_hasDirectory (FileTree.hasDirectory_of_isDirectory hthere)
    rw [selected_eq, except_bind_eq_error] at hselected
    rcases hselected with hselect | ⟨found, -, hfiles⟩
    · exact ⟨cause, rfl, Glob.isTooLong_of_select hwf hreach hselect⟩
    · rcases Glob.exists_of_gather_eq_error (except_map_eq_error.mp hfiles) with
        ⟨member, -, hmember⟩
      rw [kept, except_map_eq_error, FileTree.isFile_eq, except_map_eq_error] at hmember
      exact ⟨cause, rfl, FileTree.isTooLong_of_entry_eq_error hmember⟩

/-- Without a file, the others are listed in the same order. -/
theorem files_removeAt (hwf : tree.WellFormed) {place : Location} (hroot : place ≠ [])
    (hplace : tree.entryAt place ≠ some .directory) (h : input.files tree = .ok paths) :
    input.files (tree.removeAt place) =
      .ok (paths.filter fun path => tree.destination path ≠ place) := by
  have hexists : input.exists (tree.removeAt place) = input.exists tree :=
    FileTree.isDirectory_removeAt hroot hplace input.directory
  rw [files_eq_ok] at h ⊢
  rcases h with ⟨hthere, rfl⟩ | ⟨hthere, steps, hsteps, hselected⟩
  · exact Or.inl ⟨hexists.trans hthere, rfl⟩
  · right
    refine ⟨hexists.trans hthere, steps, hsteps, ?_⟩
    rcases selected_eq_ok.mp hselected with ⟨found, files, hfound, hfiles, rfl⟩
    have hdirectory : tree.destination input.directory ≠ place := by
      rcases FileTree.hasDirectory_of_isDirectory hthere with ⟨there, hlocate, hentry⟩
      rw [FileTree.destination_of_locate hlocate]
      rintro rfl
      exact hplace hentry
    apply selected_eq_ok.mpr
    refine ⟨_, files.filter fun path => tree.destination path ≠ place,
      Glob.select_removeAt hroot hplace hwf steps _ _ hdirectory hfound, ?_, ?_⟩
    · apply Glob.gather_filter _ _ hfiles
      · intro member _ hkeep part hpart
        have helsewhere : tree.destination member ≠ place := by simpa using hkeep
        have hsame : (tree.removeAt place).isFile member = tree.isFile member := by
          rw [FileTree.isFile_eq, FileTree.entry?_removeAt_of_ne hroot hplace helsewhere,
            ← FileTree.isFile_eq]
        rw [kept, hsame, ← kept, hpart]
        rcases except_map_eq_ok.mp hpart with ⟨keep, -, rfl⟩
        split
        · rw [List.filter_cons_of_pos (by simpa using helsewhere)]
          rfl
        · rfl
      · intro member _ hdrop part hpart
        rcases except_map_eq_ok.mp hpart with ⟨keep, -, rfl⟩
        split
        · rw [List.filter_cons_of_neg (by simpa using hdrop)]
          rfl
        · rfl
    · rw [filter_mergeSort Path.le_trans Path.le_total]

end Input

end RequestScript
