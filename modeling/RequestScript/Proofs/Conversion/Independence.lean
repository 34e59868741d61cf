import RequestScript.Proofs.Conversion.Turns
import RequestScript.Proofs.Files.Listing
import RequestScript.Proofs.Files.Removal

/-!
# Files that can not be converted

A file that can not be read or scanned is left out of what a conversion does to the tree, and the
conversion of the other files does not depend on it.  So a conversion of the tree without this
file runs in step with one of the tree that has it: before every other turn, the one tree is the
other one without the file.

Main results:

- Theorem {lit}`Conversion.convertFile_removeAt`: a turn without a file that it does not pass.
- Theorem {lit}`Conversion.convertFiles_removeAt`: all turns without such a file.
- Theorem {lit}`Conversion.convertAll_remove_of_failed`: a file that fails does not disturb the
  others.
-/

namespace RequestScript

namespace Conversion

variable {input : Input} {output : Output} {logger : Logger} {tree : FileTree} {source : Path}
  {place : Location} {octets : List UInt8} {paths : List Path}

/-! ## One turn -/

theorem process_removeAt (hroot : place ≠ []) (hread : tree.read source = .ok octets)
    (hsource : tree.destination source ≠ place) (hplace : tree.entryAt place ≠ some .directory)
    (hpast : ¬ tree.Passes (output.path source) place) :
    process output logger (tree.removeAt place) source =
      { process output logger tree source with
        tree := (process output logger tree source).tree.removeAt place } := by
  have hwithout := FileTree.read_removeAt hroot hplace hread hsource
  rw [process, process, read_eq_of_read hread hwithout]
  cases Input.read tree source with
  | error cause => rfl
  | ok content =>
    dsimp only
    cases Script.commands content with
    | error cause => rfl
    | ok commands =>
      dsimp only
      rw [Output.write_removeAt hroot hpast]
      rcases output.write tree source commands with ⟨after, fault | target⟩
      · rfl
      · rfl

/-- A turn does the same without a file that it does not pass. -/
theorem convertFile_removeAt (hroot : place ≠ []) (hread : tree.read source = .ok octets)
    (hsource : tree.destination source ≠ place) (hplace : tree.entryAt place ≠ some .directory)
    (hpast : ¬ tree.Passes (output.path source) place) :
    convertFile output logger (tree.removeAt place) source =
      { convertFile output logger tree source with
        tree := (convertFile output logger tree source).tree.removeAt place } := by
  unfold convertFile
  dsimp only
  rw [process_removeAt hroot hread hsource hplace hpast]
  dsimp only
  split
  · rfl
  · rfl

/-! ## All turns -/

/-- Octets that are no script: no file that holds them can be converted. -/
def Unscannable (octets : List UInt8) : Prop :=
  ∀ tree source, tree.read source = .ok octets → ∃ failure, commandsOf tree source = .error failure

theorem unscannable_of_failed {failure : Failure} (hread : tree.read source = .ok octets)
    (hfailed : commandsOf tree source = .error failure) : Unscannable octets := by
  intro later other hother
  exact ⟨failure, by rw [commandsOf_eq_of_read hread hother, hfailed]⟩

/-- A file that no output is stored at holds the same octets when its turn comes. -/
theorem unscannable_of_mem_turns {turn : Turn} {failure : Failure}
    (hturn : turn ∈ turns output logger tree paths) (hread : tree.read turn.source = .ok octets)
    (hpast : ∀ other ∈ turns output logger tree paths,
      ¬ tree.Passes (output.path other.source) (tree.destination turn.source))
    (hfailed : commandsOf turn.before turn.source = .error failure) : Unscannable octets := by
  rcases FileTree.read_eq_ok.mp hread with ⟨place, hlocate, hplace⟩
  rw [FileTree.destination_of_locate hlocate] at hpast
  rcases List.append_of_mem hturn with ⟨earlier, later, hsplit⟩
  rcases turns_eq_append hsplit with ⟨front, back, rfl, rfl, hbefore, -, -⟩
  have hstays : turn.before.entryAt place = some (.file octets) := by
    rw [hbefore]
    apply entryAt_convertFiles_file output logger hplace
    intro other hother _ hsame
    apply hpast other
    · rw [hsplit]
      exact List.mem_append_left _ hother
    · rw [← hsame]
      exact FileTree.passes_destination tree _
  have hgrows := grows_of_mem_turns hturn
  exact unscannable_of_failed
    (FileTree.read_eq_ok.mpr ⟨place, hgrows.locate_eq_ok hlocate, hstays⟩) hfailed

/-- The turns of the other files do the same without a file that holds no script. -/
theorem convertFiles_removeAt (output : Output) (logger : Logger) (hbroken : Unscannable octets)
    (hplace : tree.entryAt place = some (.file octets))
    (hfiles : ∀ source ∈ paths, ∃ others, tree.read source = .ok others)
    (hpast : ∀ source ∈ paths, ¬ tree.Passes (output.path source) place) :
    (convertFiles output logger (tree.removeAt place)
        (paths.filter fun source => tree.destination source ≠ place)).tree =
      (convertFiles output logger tree paths).tree.removeAt place ∧
    (convertFiles output logger (tree.removeAt place)
        (paths.filter fun source => tree.destination source ≠ place)).result =
      (convertFiles output logger tree paths).result.filter fun outcome =>
        tree.destination outcome.source ≠ place := by
  induction paths generalizing tree with
  | nil => exact ⟨rfl, rfl⟩
  | cons source rest ih =>
    have hroot : place ≠ [] := by
      rintro rfl
      cases hplace
    have hgrows := grows_convertFile output logger tree source
    have hturn := convertFile_cases output logger tree source
    have hstays : (convertFile output logger tree source).tree.entryAt place =
        some (.file octets) := by
      apply hturn.entryAt_file hplace
      rintro - rfl
      exact hpast source List.mem_cons_self (FileTree.passes_destination tree _)
    have hrest := ih hstays
      (fun other hother => by
        rcases hfiles other (List.mem_cons_of_mem source hother) with ⟨others, hothers⟩
        exact hgrows.exists_read hothers)
      (fun other hother => by
        rw [hgrows.passes_iff]
        exact hpast other (List.mem_cons_of_mem source hother))
    simp only [hgrows.destination] at hrest
    rcases hfiles source List.mem_cons_self with ⟨others, hread⟩
    rw [convertFiles_cons]
    dsimp only
    by_cases hsource : tree.destination source = place
    · -- a turn of the file itself changes nothing
      rcases FileTree.read_eq_ok.mp hread with ⟨there, hlocate, hentry⟩
      have hthere : there = place := by
        rw [← hsource, FileTree.destination_of_locate hlocate]
      rw [hthere, hplace] at hentry
      cases hentry
      rcases hbroken tree source hread with ⟨failure, hfailure⟩
      rw [(convertFile_of_error hfailure).1] at hrest ⊢
      rw [List.filter_cons_of_neg (by simpa using hsource),
        List.filter_cons_of_neg (by simpa [hturn.source_eq] using hsource)]
      exact hrest
    · have hfile : tree.entryAt place ≠ some .directory := by
        rw [hplace]
        simp
      rw [List.filter_cons_of_pos (by simpa using hsource), convertFiles_cons,
        convertFile_removeAt hroot hread hsource hfile (hpast source List.mem_cons_self)]
      dsimp only
      rw [List.filter_cons_of_pos (by simpa [hturn.source_eq] using hsource)]
      exact ⟨hrest.1, by rw [hrest.2]⟩

/-! ## A conversion -/

/-- A file that can not be read or scanned does not disturb the others.  Without it, a conversion
reports the other outcomes and leaves the other entries.  Its turn changes nothing, so what was
stored for it before stays, unless commands of another file are stored there. -/
theorem convertAll_remove_of_failed (hwf : tree.WellFormed) {turn : Turn} {failure : Failure}
    (hturn : turn ∈ course input output logger tree)
    (hfailed : commandsOf turn.before turn.source = .error failure)
    (hpast : ∀ other ∈ course input output logger tree,
      ¬ tree.Passes (output.path other.source) (tree.destination turn.source)) :
    ∃ removed report,
      tree.remove turn.source = .ok removed ∧
      (convertAll input output logger tree).result = .ok report ∧
      (convertAll input output logger removed).result =
        .ok ⟨report.outcomes.filter fun outcome =>
          tree.destination outcome.source ≠ tree.destination turn.source⟩ ∧
      (convertAll input output logger removed).tree =
        (convertAll input output logger tree).tree.removeAt (tree.destination turn.source) ∧
      turn.outcome = failedOutcome turn.source failure ∧
      turn.after = turn.before ∧
      ∀ octets, tree.read (output.path turn.source) = .ok octets →
        (∀ other ∈ course input output logger tree, other.outcome.ok = true →
          tree.destination (output.path other.source) ≠
            tree.destination (output.path turn.source)) →
        (convertAll input output logger tree).tree.read (output.path turn.source) = .ok octets := by
  rcases files_of_mem_course hturn with ⟨paths, hfiles, hmem⟩
  rw [course_of_files hfiles] at hpast ⊢
  have hspares : ∀ source ∈ paths,
      ¬ tree.Passes (output.path source) (tree.destination turn.source) := by
    intro source hsource
    rcases exists_mem_turns hsource with ⟨other, hother, rfl⟩
    exact hpast other hother
  rcases Input.exists_read_of_mem_files hfiles (mem_of_mem_turns hmem) with ⟨octets, hread⟩
  rcases FileTree.read_eq_ok.mp hread with ⟨place, hlocate, hplace⟩
  have hdestination := FileTree.destination_of_locate hlocate
  have hroot : place ≠ [] := by
    rintro rfl
    cases hplace
  have hfile : tree.entryAt place ≠ some .directory := by
    rw [hplace]
    simp
  have hbroken : Unscannable octets := by
    apply unscannable_of_mem_turns hmem hread _ hfailed
    intro other hother
    exact hspares other.source (mem_of_mem_turns hother)
  have heffect : turn.effect = convertFile output logger turn.before turn.source :=
    effect_of_mem_turns hmem
  have hwithout := Input.files_removeAt hwf hroot hfile hfiles
  rw [hdestination] at hspares ⊢
  have hothers := convertFiles_removeAt output logger hbroken hplace
    (fun source hsource => Input.exists_read_of_mem_files hfiles hsource) hspares
  refine ⟨tree.removeAt place, ⟨(turns output logger tree paths).map Turn.outcome⟩, ?_,
    (convertAll_of_files hfiles).2, ?_, ?_, ?_, ?_, ?_⟩
  · rw [FileTree.remove_of_read hread, hdestination]
  · rw [(convertAll_of_files hwithout).2, ← outcomes_turns, ← outcomes_turns, hothers.2]
  · rw [(convertAll_of_files hwithout).1, (convertAll_of_files hfiles).1, hothers.1]
  · rw [Turn.outcome, heffect, (convertFile_of_error hfailed).2]
  · rw [Turn.after, heffect, (convertFile_of_error hfailed).1]
  · intro others hstored hfree
    rw [(convertAll_of_files hfiles).1]
    apply (grows_convertFiles output logger tree paths).read_eq_ok hstored
    rcases FileTree.read_eq_ok.mp hstored with ⟨there, hthere, hentry⟩
    rw [FileTree.destination_of_locate hthere] at hfree ⊢
    rw [hentry]
    exact entryAt_convertFiles_file output logger hentry hfree

/-- A directory with two feature files, of which the first holds no script. -/
def brokenTree : FileTree :=
  { entries := ⟨[(["f".toList], .directory),
      (["f".toList, "a.feature".toList], .file (Utf8.encode "* method\n".toList)),
      (["f".toList, "b.feature".toList], .file sampleScript)]⟩ }

theorem files_brokenTree :
    sampleInput.files brokenTree =
      .ok [.ofText "f/a.feature".toList, .ofText "f/b.feature".toList] := by
  have hfound : Glob.select brokenTree [.wild (Glob.pieces "*.feature".toList)]
      sampleInput.directory = .ok [.ofText "f/a.feature".toList, .ofText "f/b.feature".toList] := by
    decide +kernel
  exact files_sampleInput (by decide +kernel) hfound (by decide +kernel) (by decide +kernel)

theorem convertAll_remove_of_failed_brokenTree :
    ∃ removed, brokenTree.remove (.ofText "f/a.feature".toList) = .ok removed ∧
      (convertAll sampleInput sampleOutput {} removed).result =
        .ok ⟨[writtenOutcome (.ofText "f/b.feature".toList) (.ofText "o/b.txt".toList) 1]⟩ ∧
      (convertAll sampleInput sampleOutput {} removed).tree =
        (convertAll sampleInput sampleOutput {} brokenTree).tree.removeAt
          ["f".toList, "a.feature".toList] := by
  have hfailed : ∃ failure,
      commandsOf brokenTree (.ofText "f/a.feature".toList) = .error failure := by
    cases h : commandsOf brokenTree (.ofText "f/a.feature".toList) with
    | error failure => exact ⟨failure, rfl⟩
    | ok commands =>
      have hfails : (commandsOf brokenTree (.ofText "f/a.feature".toList)).isOk = false := by
        decide +kernel
      rw [h] at hfails
      cases hfails
  rcases hfailed with ⟨failure, hfailure⟩
  have hturn : (⟨brokenTree, .ofText "f/a.feature".toList,
      convertFile sampleOutput {} brokenTree (.ofText "f/a.feature".toList)⟩ : Turn) ∈
        course sampleInput sampleOutput {} brokenTree := by
    rw [course_of_files files_brokenTree, turns_cons]
    exact List.mem_cons_self
  have hpast : ∀ other ∈ course sampleInput sampleOutput {} brokenTree,
      ¬ brokenTree.Passes (sampleOutput.path other.source)
        (brokenTree.destination (.ofText "f/a.feature".toList)) := by
    intro other hother
    rw [course_of_files files_brokenTree] at hother
    have hsource := mem_of_mem_turns hother
    revert hsource
    generalize other.source = source
    revert source
    decide +kernel
  rcases convertAll_remove_of_failed (by decide +kernel) hturn hfailure hpast with
    ⟨removed, report, hremove, hreport, hresult, htree, -⟩
  refine ⟨removed, hremove, ?_, htree⟩
  rw [(convertAll_of_files files_brokenTree).2] at hreport
  cases hreport
  rw [hresult]
  decide +kernel

end Conversion
end RequestScript
