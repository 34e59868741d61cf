import RequestScript.Proofs.Files.Listing

/-!
# Why files can not be listed

Files are looked for in two ways that can fail.  The text of a pattern may be no pattern, which
shows only when the directory is there, and a path on the way may be too long.  Both are told
here by the text of the pattern and by the tree, and nothing else goes wrong in the tree of a
file system.

Main results:

- Definition {lit}`Glob.Rejected`: why a text is no pattern, told by the text.
- Theorem {lit}`Glob.stepsOf_eq_error`: what is no pattern.
- Theorem {lit}`Input.files_eq_error`: why files can not be listed.
-/

namespace RequestScript

open Text

namespace Path

/-- A text is relative exactly when it does not begin with a slash. -/
theorem anchorOf_eq_workingDirectory (text : Text) :
    anchorOf text = .workingDirectory ↔ text.head? ≠ some '/' := by
  cases text with
  | nil => simp [anchorOf]
  | cons c text =>
    by_cases hslash : c = '/'
    · subst hslash
      unfold anchorOf
      split <;> simp_all
    · simp [anchorOf, hslash]

end Path

namespace Glob

/-! ## Texts that are no pattern -/

/-- Why a text is no pattern: it is empty, it begins with a slash, it names nothing, or a name
in it holds two stars and more. -/
inductive Rejected (text : Text) : Fault → Prop where
  | empty (h : text = []) : Rejected text .empty
  | notRelative (h : text.head? = some '/') : Rejected text .notRelative
  | noSteps (hempty : text ≠ []) (hrelative : text.head? ≠ some '/')
      (hnone : Path.partsOf text = []) (hlast : text.getLast? ≠ some '/') : Rejected text .noSteps
  | onlySlash (hrelative : text.head? ≠ some '/') (hnone : Path.partsOf text = [])
      (hlast : text.getLast? = some '/') : Rejected text .onlySlash
  | nestedDoubleStar {name : Text} (hrelative : text.head? ≠ some '/')
      (hname : name ∈ Path.partsOf text) (hmore : name ≠ "**".toList)
      (hstars : hasDoubleStar name = true) : Rejected text .nestedDoubleStar

/-- A name is rejected only for a double star among other characters. -/
theorem stepOf_eq_error {name : Text} {fault : Fault} :
    stepOf name = .error fault ↔
      fault = .nestedDoubleStar ∧ name ≠ "**".toList ∧ hasDoubleStar name = true := by
  unfold stepOf
  by_cases hmore : name = "**".toList
  · simp [hmore]
  · by_cases hstars : hasDoubleStar name = true
    · rw [if_neg hmore, if_pos hstars, Except.error.injEq]
      exact ⟨fun h => ⟨h.symm, hmore, hstars⟩, fun h => h.1.symm⟩
    · rw [if_neg hmore, if_neg hstars]
      split <;> simp [hstars]

/-- Names are no steps exactly when one of them is none. -/
theorem mapM_stepOf_eq_error {names : List Text} {fault : Fault} :
    names.mapM stepOf = .error fault ↔
      fault = .nestedDoubleStar ∧
        ∃ name ∈ names, name ≠ "**".toList ∧ hasDoubleStar name = true := by
  induction names with
  | nil => simp [pure, Except.pure]
  | cons name names ih =>
    rw [List.mapM_cons]
    cases hstep : stepOf name with
    | error cause =>
      rcases stepOf_eq_error.mp hstep with ⟨rfl, hnested⟩
      constructor
      · intro h
        cases h
        exact ⟨rfl, name, List.mem_cons_self, hnested⟩
      · rintro ⟨rfl, -⟩
        rfl
    | ok step =>
      have hname : ¬ (name ≠ "**".toList ∧ hasDoubleStar name = true) := by
        intro hnested
        rw [stepOf_eq_error.mpr ⟨rfl, hnested⟩] at hstep
        cases hstep
      have hrest : (do return step :: (← names.mapM stepOf)) = .error fault ↔
          names.mapM stepOf = .error fault := by
        cases names.mapM stepOf <;> simp [bind, Except.bind, pure, Except.pure]
      refine hrest.trans (ih.trans ?_)
      rw [List.exists_mem_cons_iff]
      simp only [hname, false_or]

/-- An absolute pattern is rejected as such. -/
theorem stepsOf_of_absolute {text : Text} (h : text.head? = some '/') :
    stepsOf text = .error .notRelative := by
  have hempty : ¬ text.isEmpty := by
    rintro hnil
    rw [List.isEmpty_iff.mp hnil] at h
    cases h
  have hanchor : (Path.ofText text).anchor ≠ .workingDirectory :=
    fun hsame => (Path.anchorOf_eq_workingDirectory text).mp hsame h
  rw [stepsOf, if_neg hempty]
  exact if_pos hanchor

/-- A text that is not empty and does not begin with a slash has its names as steps. -/
theorem stepsOf_of_relative {text : Text} (hempty : text ≠ []) (hhead : text.head? ≠ some '/') :
    stepsOf text =
      if Path.partsOf text = [] then
        .error (if text.getLast? = some '/' then .onlySlash else .noSteps)
      else
        ((Path.partsOf text).mapM stepOf).map
          (· ++ if text.getLast? = some '/' then [Step.directoryOnly] else []) := by
  have hanchor : ¬ (Path.ofText text).anchor ≠ .workingDirectory := by
    rw [ne_eq, not_not]
    exact (Path.anchorOf_eq_workingDirectory text).mpr hhead
  have hparts : (Path.ofText text).parts = Path.partsOf text := rfl
  rw [stepsOf, if_neg (by simpa using hempty)]
  dsimp only
  rw [if_neg hanchor, hparts]
  by_cases hnone : Path.partsOf text = []
  · rw [if_pos (by simpa using hnone), if_pos hnone]
    by_cases hlast : text.getLast? = some '/' <;> simp [hlast]
  · rw [if_neg (by simpa using hnone), if_neg hnone]
    cases (Path.partsOf text).mapM stepOf <;> rfl

/-- A pattern that is rejected has one of the reasons. -/
theorem rejected_of_stepsOf {text : Text} {fault : Fault} (h : stepsOf text = .error fault) :
    Rejected text fault := by
  by_cases hempty : text = []
  · rw [hempty] at h
    cases h
    exact .empty hempty
  · by_cases hhead : text.head? = some '/'
    · rw [stepsOf_of_absolute hhead] at h
      cases h
      exact .notRelative hhead
    · rw [stepsOf_of_relative hempty hhead] at h
      split at h
      · rename_i hnone
        split at h
        · rename_i hlast
          cases h
          exact .onlySlash hhead hnone hlast
        · rename_i hlast
          cases h
          exact .noSteps hempty hhead hnone hlast
      · rcases mapM_stepOf_eq_error.mp (except_map_eq_error.mp h) with
          ⟨rfl, name, hname, hmore, hstars⟩
        exact .nestedDoubleStar hhead hname hmore hstars

/-- A pattern with one of the reasons is rejected for it. -/
theorem stepsOf_of_rejected {text : Text} {fault : Fault} (h : Rejected text fault) :
    stepsOf text = .error fault := by
  cases h with
  | empty hempty =>
    rw [hempty]
    rfl
  | notRelative hhead => exact stepsOf_of_absolute hhead
  | noSteps hempty hhead hnone hlast =>
    rw [stepsOf_of_relative hempty hhead, if_pos hnone, if_neg hlast]
  | onlySlash hhead hnone hlast =>
    have hempty : text ≠ [] := by
      rintro rfl
      cases hlast
    rw [stepsOf_of_relative hempty hhead, if_pos hnone, if_pos hlast]
  | nestedDoubleStar hhead hname hmore hstars =>
    have hempty : text ≠ [] := by
      rintro rfl
      cases hname
    have hsteps : (Path.partsOf text).mapM stepOf = .error .nestedDoubleStar :=
      mapM_stepOf_eq_error.mpr ⟨rfl, _, hname, hmore, hstars⟩
    rw [stepsOf_of_relative hempty hhead, if_neg (List.ne_nil_of_mem hname), hsteps]
    rfl

/-- What is no pattern. -/
theorem stepsOf_eq_error {text : Text} {fault : Fault} :
    stepsOf text = .error fault ↔ Rejected text fault :=
  ⟨rejected_of_stepsOf, stepsOf_of_rejected⟩

end Glob

namespace Input

variable {input : Input} {tree : FileTree}

/-- In the tree of a file system, files are not listed exactly when the directory is there and the
pattern is none, or when a path on the way is too long. -/
theorem files_eq_error (hwf : tree.WellFormed) {fault : SearchFault} :
    input.files tree = .error fault ↔
      (∃ cause, fault = .pattern cause ∧ tree.isDirectory input.directory = .ok true ∧
        Glob.Rejected input.pattern cause) ∨
      ∃ cause : FileTree.Fault, fault = .path cause ∧ cause.IsTooLong ∧
        input.files tree = .error (.path cause) := by
  constructor
  · intro h
    cases hthere : input.exists tree with
    | error cause =>
      have hlong : cause.IsTooLong := by
        rw [Input.exists, FileTree.isDirectory_eq, except_map_eq_error] at hthere
        exact FileTree.isTooLong_of_entry_eq_error hthere
      have hfiles : input.files tree = .error (.path cause) := by
        rw [files, hthere]
        rfl
      rw [hfiles] at h
      cases h
      exact Or.inr ⟨cause, rfl, hlong, hfiles⟩
    | ok there =>
      cases there with
      | false =>
        rw [files_of_missing hthere] at h
        cases h
      | true =>
        cases hsteps : Glob.stepsOf input.pattern with
        | error cause =>
          rw [files, hthere, hsteps] at h
          cases h
          exact Or.inl ⟨cause, rfl, hthere, Glob.stepsOf_eq_error.mp hsteps⟩
        | ok steps =>
          rcases isTooLong_of_files hwf hthere hsteps h with ⟨cause, rfl, hlong⟩
          exact Or.inr ⟨cause, rfl, hlong, h⟩
  · rintro (⟨cause, rfl, hthere, hrejected⟩ | ⟨cause, rfl, -, hfiles⟩)
    · have hexists : input.exists tree = .ok true := hthere
      rw [files, hexists, Glob.stepsOf_eq_error.mpr hrejected]
      rfl
    · exact hfiles

end Input

end RequestScript
