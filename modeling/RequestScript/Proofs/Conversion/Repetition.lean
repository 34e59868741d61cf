import RequestScript.Proofs.Conversion.Turns
import RequestScript.Proofs.Writes

/-!
# Converting again

A second conversion of the same files finds what the first one has left.  Every turn stores the
commands that it stored before, or fails again, so while the second conversion is under way a
place holds what the first one had left there at the same turn, or what it has left in the end.
When all turns are over these are the same.

The outcomes are the same too, but for the wording of one fault: when a directory could not be
made although a name on the way to it was missing, the missing name may be there the second time,
and what is found in the way is named differently.

Main results:

- Definition {lit}`Conversion.Replayed`: what stands where in the course of a second conversion.
- Theorem {lit}`Conversion.convertFile_again` and theorem
  {lit}`Conversion.convertFiles_again`: one turn, and all turns, a second time.
- Theorem {lit}`Conversion.convertAll_again`: a second conversion changes nothing.
-/

namespace RequestScript

namespace Conversion

variable {input : Input} {output : Output} {logger : Logger} {tree after final later : FileTree}
  {source : Path} {paths : List Path} {place : Location} {outcome : Outcome}

/-! ## Trees of a second conversion -/

/-- A tree in the course of a second conversion: the first one has left {lit}`final` in the end,
and {lit}`tree` when it had come as far.  The same places are taken as in the end, and each holds
what it held in the one tree or in the other. -/
structure Replayed (final tree later : FileTree) : Prop where
  grows : final.Grows later
  keys : later.entries.keys = final.entries.keys
  root : later.entries.get? [] = final.entries.get? []
  entryAt : ∀ place, later.entryAt place = final.entryAt place ∨
    later.entryAt place = tree.entryAt place

namespace Replayed

theorem refl (final tree : FileTree) : Replayed final tree final :=
  ⟨.refl final, rfl, rfl, fun _ => Or.inl rfl⟩

/-- When all turns are over, the tree is the one that was left the first time. -/
theorem eq (h : Replayed final final later) (hnodup : final.entries.keys.Nodup) :
    later = final := by
  have hentries : later.entries = final.entries := by
    apply OrderedMap.eq_of_keys_eq hnodup h.keys
    intro place
    by_cases hroot : place = []
    · rw [hroot]
      exact h.root
    · have hplace : later.entryAt place = final.entryAt place := (h.entryAt place).elim id id
      rwa [FileTree.entryAt, FileTree.entryAt, if_neg hroot, if_neg hroot] at hplace
  rcases final with ⟨entries, workingDirectory⟩
  rcases later with ⟨others, other⟩
  have hstart := h.grows.workingDirectory
  dsimp only at hentries hstart
  rw [hentries, hstart]

/-- A place where a turn has made at most a directory. -/
theorem entryAt_of_kept (h : Replayed final tree later) (hafter : after.Grows final)
    (hkept : after.entryAt place = tree.entryAt place ∨
      (tree.entryAt place = none ∧ after.entryAt place = some .directory)) :
    later.entryAt place = final.entryAt place ∨ later.entryAt place = after.entryAt place := by
  rcases hkept with hsame | ⟨-, hmade⟩
  · rw [hsame]
    exact h.entryAt place
  · left
    have hfinal := hafter.directory hmade
    rw [hfinal, h.grows.directory hfinal]

/-- A turn that changes nothing a second time. -/
theorem of_kept (h : Replayed final tree later) (hafter : after.Grows final)
    (hkept : ∀ place, after.entryAt place = tree.entryAt place ∨
      (tree.entryAt place = none ∧ after.entryAt place = some .directory)) :
    Replayed final after later :=
  ⟨h.grows, h.keys, h.root, fun place => h.entryAt_of_kept hafter (hkept place)⟩

/-- A turn that writes a file again. -/
theorem of_put (h : Replayed final tree later) (hafter : after.Grows final)
    {octets : List UInt8} (hplace : after.entryAt place = some (.file octets))
    (hkept : ∀ other, other ≠ place → after.entryAt other = tree.entryAt other ∨
      (tree.entryAt other = none ∧ after.entryAt other = some .directory)) :
    Replayed final after (later.put place (.file octets)) := by
  have hroot : place ≠ [] := by
    rintro rfl
    cases hplace
  rcases (hafter.trans h.grows).file hplace with ⟨others, hfile⟩
  have hkey : place ∈ later.entries.keys := by
    rw [FileTree.entryAt, if_neg hroot] at hfile
    exact List.mem_map_of_mem (OrderedMap.mem_entries_of_get? hfile)
  constructor
  · apply h.grows.trans (.put_file _ octets)
    simp [hfile]
  · rw [← h.keys]
    exact OrderedMap.keys_insert_of_mem hkey _
  · rw [← h.root]
    exact OrderedMap.get?_insert_of_ne later.entries (Ne.symm hroot) _
  · intro other
    by_cases hother : other = place
    · right
      rw [hother, FileTree.entryAt_put_self later hroot, hplace]
    · rw [FileTree.entryAt_put_of_ne later hother]
      exact h.entryAt_of_kept hafter (hkept other hother)

/-- A file that holds the same at first and in the end holds it in between. -/
theorem read (h : Replayed final tree later) (hgrows : tree.Grows final) {octets : List UInt8}
    (hfirst : tree.read source = .ok octets) (hlast : final.read source = .ok octets) :
    later.read source = .ok octets := by
  apply h.grows.read_eq_ok hlast
  rcases FileTree.read_eq_ok.mp hfirst with ⟨place, hlocate, hplace⟩
  rcases FileTree.read_eq_ok.mp hlast with ⟨there, hthere, hentry⟩
  rw [hgrows.locate_eq_ok hlocate] at hthere
  cases hthere
  rw [hgrows.destination, FileTree.destination_of_locate hlocate]
  rcases h.entryAt place with hsame | hsame
  · exact hsame
  · rw [hsame, hplace, hentry]

end Replayed

/-! ## One turn -/

/-- An outcome is the one of an earlier turn, but for the message when the directory for the
commands could not be made and a name on the way to it was missing. -/
def Repeats (output : Output) (turn : Turn) (outcome : Outcome) : Prop :=
  outcome = turn.outcome ∨
    (turn.outcome.ok = false ∧ output.Obstructed turn.before turn.source ∧
      ∃ message, outcome = { turn.outcome with errorMessage := some message })

/-- A turn does the same a second time. -/
theorem convertFile_again {octets : List UInt8} (h : Replayed final tree later)
    (hfinal : (convertFile output logger tree source).tree.Grows final)
    (hread : tree.read source = .ok octets) (hagain : later.read source = .ok octets) :
    Replayed final (convertFile output logger tree source).tree
        (convertFile output logger later source).tree ∧
      Repeats output ⟨tree, source, convertFile output logger tree source⟩
        (convertFile output logger later source).result := by
  have hcommands := commandsOf_eq_of_read hread hagain
  cases hscan : commandsOf tree source with
  | error failure =>
    rw [hscan] at hcommands
    rw [(convertFile_of_error hcommands).1, (convertFile_of_error hscan).1]
    refine ⟨h, Or.inl ?_⟩
    rw [Turn.outcome, (convertFile_of_error hcommands).2, (convertFile_of_error hscan).2]
  | ok commands =>
    rw [hscan] at hcommands
    have hturn := convertFile_cases output logger tree source
    have hfirst := convertFile_of_ok output logger hscan
    have hsecond := convertFile_of_ok output logger hcommands
    rcases hwrite : output.write tree source commands with ⟨after, fault | target⟩
    · rw [hwrite] at hfirst
      dsimp only at hfirst
      rw [hfirst.1] at hfinal hturn
      rw [hfirst.2] at hturn
      rcases Output.write_again_of_error hwrite (hfinal.trans h.grows) with
        ⟨again, hrewrite, hsame⟩
      rw [hrewrite] at hsecond
      rw [hfirst.1, hsecond.1]
      refine ⟨h.of_kept hfinal (hturn.entryAt_of_failed rfl), ?_⟩
      rw [Repeats, Turn.outcome, hfirst.2, hsecond.2]
      rcases hsame with rfl | hobstructed
      · exact Or.inl rfl
      · exact Or.inr ⟨rfl, hobstructed, again.message, rfl⟩
    · rw [hwrite] at hfirst
      dsimp only at hfirst
      rw [hfirst.1] at hfinal hturn
      rcases Output.write_again_of_ok hwrite with ⟨rfl, hplace, hrewrite⟩
      rw [hrewrite (hfinal.trans h.grows)] at hsecond
      rw [hfirst.1, hsecond.1]
      refine ⟨h.of_put hfinal hplace fun other hother => hturn.entryAt hother, Or.inl ?_⟩
      rw [Turn.outcome, hfirst.2, hsecond.2]

/-! ## All turns -/

/-- All turns do the same a second time, when no commands are stored in the files themselves. -/
theorem convertFiles_again (hfiles : ∀ source ∈ paths, ∃ octets, tree.read source = .ok octets)
    (hapart : ∀ source ∈ paths, ∀ other ∈ paths,
      tree.destination source ≠ tree.destination (output.path other))
    (h : Replayed (convertFiles output logger tree paths).tree tree later) :
    Replayed (convertFiles output logger tree paths).tree
        (convertFiles output logger tree paths).tree (convertFiles output logger later paths).tree ∧
      List.Forall₂ (Repeats output) (turns output logger tree paths)
        (convertFiles output logger later paths).result := by
  induction paths generalizing tree later with
  | nil => exact ⟨h, .nil⟩
  | cons source rest ih =>
    rcases hfiles source List.mem_cons_self with ⟨octets, hread⟩
    have hagain : later.read source = .ok octets :=
      h.read (grows_convertFiles output logger tree _) hread
        (read_convertFiles output logger hread (hapart source List.mem_cons_self))
    have hgrows := grows_convertFile output logger tree source
    rw [convertFiles_tree_cons] at h ⊢
    rw [convertFiles_cons, turns_cons, List.forall₂_cons]
    rcases convertFile_again h (grows_convertFiles output logger _ rest) hread hagain with
      ⟨hreplayed, hrepeats⟩
    have hothers : ∀ other ∈ rest, ∃ octets,
        (convertFile output logger tree source).tree.read other = .ok octets := by
      intro other hother
      rcases hfiles other (List.mem_cons_of_mem source hother) with ⟨others, hothers⟩
      exact hgrows.exists_read hothers
    have hpast : ∀ other ∈ rest, ∀ another ∈ rest,
        (convertFile output logger tree source).tree.destination other ≠
          (convertFile output logger tree source).tree.destination (output.path another) := by
      intro other hother another hanother
      rw [hgrows.destination, hgrows.destination]
      exact hapart other (List.mem_cons_of_mem source hother) another
        (List.mem_cons_of_mem source hanother)
    rcases ih hothers hpast hreplayed with ⟨hlast, hrest⟩
    exact ⟨hlast, hrepeats, hrest⟩

/-- Where no directory was obstructed, the outcomes repeat without a difference. -/
theorem eq_outcomes_of_repeats {turns : List Turn} {outcomes : List Outcome}
    (h : List.Forall₂ (Repeats output) turns outcomes)
    (hfree : ∀ turn ∈ turns, ¬ output.Obstructed turn.before turn.source) :
    outcomes = turns.map Turn.outcome := by
  induction h with
  | nil => rfl
  | @cons turn outcome turns outcomes hrepeats _ ih =>
    rw [List.map_cons, ih fun other hother => hfree other (List.mem_cons_of_mem turn hother)]
    rcases hrepeats with rfl | ⟨-, hobstructed, -⟩
    · rfl
    · exact absurd hobstructed (hfree turn List.mem_cons_self)

/-! ## Two conversions -/

/-- A second conversion of the same files leaves the tree that the first one has left, and its
report repeats the first one. -/
theorem convertAll_again (hnodup : tree.entries.keys.Nodup) (hfiles : input.files tree = .ok paths)
    (hagain : input.files (convertAll input output logger tree).tree = .ok paths)
    (hapart : ∀ source ∈ paths, ∀ other ∈ paths,
      tree.destination source ≠ tree.destination (output.path other)) :
    ∃ first second, (convertAll input output logger tree).result = .ok first ∧
      (convertAll input output logger (convertAll input output logger tree).tree).result =
        .ok second ∧
      (convertAll input output logger (convertAll input output logger tree).tree).tree =
        (convertAll input output logger tree).tree ∧
      first.outcomes = (course input output logger tree).map Turn.outcome ∧
      List.Forall₂ (Repeats output) (course input output logger tree) second.outcomes ∧
      ((∀ turn ∈ course input output logger tree,
          ¬ output.Obstructed turn.before turn.source) →
        second = first) := by
  rw [(convertAll_of_files hfiles).1] at hagain ⊢
  rw [(convertAll_of_files hagain).1, (convertAll_of_files hagain).2, ← outcomes_turns,
    course_of_files hfiles]
  rcases convertFiles_again (fun source hsource => Input.exists_read_of_mem_files hfiles hsource)
    hapart (.refl (convertFiles output logger tree paths).tree tree) with ⟨hreplayed, hrepeats⟩
  refine ⟨_, _, (convertAll_of_files hfiles).2, rfl, ?_, rfl, hrepeats, fun hfree => ?_⟩
  · exact hreplayed.eq ((grows_convertFiles output logger tree paths).nodup hnodup)
  · exact congrArg Report.mk (eq_outcomes_of_repeats hrepeats hfree)

/-- A directory with a feature file, and a file in the way of the directory {lit}`n/../g/c`. -/
def obstructedTree : FileTree :=
  { entries := ⟨[(["f".toList], .directory),
      (["f".toList, "a.feature".toList], .file sampleScript),
      (["g".toList], .file [])]⟩ }

/-- Command files in the directory {lit}`n/../g/c`. -/
def obstructedOutput : Output := { directory := .ofText "n/../g/c".toList }

theorem files_obstructedTree :
    sampleInput.files obstructedTree = .ok [.ofText "f/a.feature".toList] := by
  have hfound : Glob.select obstructedTree [.wild (Glob.pieces "*.feature".toList)]
      sampleInput.directory = .ok [.ofText "f/a.feature".toList] := by
    decide +kernel
  exact files_sampleInput (by decide +kernel) hfound (by decide +kernel) (by decide +kernel)

theorem files_convertAll_obstructedTree :
    sampleInput.files (convertAll sampleInput obstructedOutput {} obstructedTree).tree =
      .ok [.ofText "f/a.feature".toList] := by
  rw [(convertAll_of_files files_obstructedTree).1]
  have hfound : Glob.select
      (convertFiles obstructedOutput {} obstructedTree [.ofText "f/a.feature".toList]).tree
      [.wild (Glob.pieces "*.feature".toList)] sampleInput.directory =
        .ok [.ofText "f/a.feature".toList] := by
    decide +kernel
  exact files_sampleInput (by decide +kernel) hfound (by decide +kernel) (by decide +kernel)

/-- Two feature files, and a directory where the commands of the second one would go. -/
def blockedTree : FileTree :=
  { entries := ⟨[(["f".toList], .directory),
      (["f".toList, "a.feature".toList], .file sampleScript),
      (["f".toList, "b.feature".toList], .file sampleScript),
      (["o".toList], .directory),
      (["o".toList, "b.txt".toList], .directory)]⟩ }

theorem files_blockedTree :
    sampleInput.files blockedTree =
      .ok [.ofText "f/a.feature".toList, .ofText "f/b.feature".toList] := by
  have hfound : Glob.select blockedTree [.wild (Glob.pieces "*.feature".toList)]
      sampleInput.directory =
        .ok [.ofText "f/a.feature".toList, .ofText "f/b.feature".toList] := by
    decide +kernel
  exact files_sampleInput (by decide +kernel) hfound (by decide +kernel) (by decide +kernel)

theorem files_convertAll_blockedTree :
    sampleInput.files (convertAll sampleInput sampleOutput {} blockedTree).tree =
      .ok [.ofText "f/a.feature".toList, .ofText "f/b.feature".toList] := by
  rw [(convertAll_of_files files_blockedTree).1]
  have hfound : Glob.select
      (convertFiles sampleOutput {} blockedTree
        [.ofText "f/a.feature".toList, .ofText "f/b.feature".toList]).tree
      [.wild (Glob.pieces "*.feature".toList)] sampleInput.directory =
        .ok [.ofText "f/a.feature".toList, .ofText "f/b.feature".toList] := by
    decide +kernel
  exact files_sampleInput (by decide +kernel) hfound (by decide +kernel) (by decide +kernel)

/-- Where one file is written and another one is not, both turns are repeated.  Where the directory
{lit}`n` is made before a file is found to be in the way, the tree is left as it is. -/
theorem convertAll_again_obstructedTree :
    (∃ first second, (convertAll sampleInput sampleOutput {} blockedTree).result = .ok first ∧
      (convertAll sampleInput sampleOutput {}
        (convertAll sampleInput sampleOutput {} blockedTree).tree).result = .ok second ∧
      (convertAll sampleInput sampleOutput {}
          (convertAll sampleInput sampleOutput {} blockedTree).tree).tree =
        (convertAll sampleInput sampleOutput {} blockedTree).tree ∧
      first.outcomes.map Outcome.ok = [true, false] ∧ second = first) ∧
    (convertAll sampleInput obstructedOutput {}
        (convertAll sampleInput obstructedOutput {} obstructedTree).tree).tree =
      (convertAll sampleInput obstructedOutput {} obstructedTree).tree := by
  constructor
  · have hnodup : blockedTree.entries.keys.Nodup := by decide +kernel
    rcases convertAll_again hnodup files_blockedTree files_convertAll_blockedTree
      (by decide +kernel) with ⟨first, second, hfirst, hsecond, htree, houtcomes, -, hsame⟩
    rw [course_of_files files_blockedTree] at houtcomes hsame
    have hok : (turns sampleOutput {} blockedTree
        [.ofText "f/a.feature".toList, .ofText "f/b.feature".toList]).map
          (fun turn => turn.outcome.ok) = [true, false] := by
      decide +kernel
    have hmade : ∀ turn ∈ turns sampleOutput {} blockedTree
        [.ofText "f/a.feature".toList, .ofText "f/b.feature".toList],
          (turn.before.makeDirectories (sampleOutput.path turn.source).parent).2 = none := by
      decide +kernel
    refine ⟨first, second, hfirst, hsecond, htree, ?_,
      hsame fun turn hturn hobstructed => hobstructed.2 (hmade turn hturn)⟩
    rw [houtcomes, List.map_map]
    exact hok
  · have hnodup : obstructedTree.entries.keys.Nodup := by decide +kernel
    rcases convertAll_again hnodup files_obstructedTree files_convertAll_obstructedTree
      (by decide +kernel) with ⟨first, second, -, -, htree, -⟩
    exact htree

/-- A second report can differ from the first one in the wording of a fault. -/
theorem report_differs_again :
    ¬ ∀ (input : Input) (output : Output) (logger : Logger) (tree : FileTree) (paths : List Path),
      tree.WellFormed → '/' ∉ output.suffix → input.files tree = .ok paths →
      input.files (convertAll input output logger tree).tree = .ok paths →
      (∀ source ∈ paths, ∀ other ∈ paths,
        tree.destination source ≠ tree.destination (output.path other)) →
      (convertAll input output logger (convertAll input output logger tree).tree).result =
        (convertAll input output logger tree).result := by
  intro hall
  have hsame := hall sampleInput obstructedOutput {} obstructedTree _ (by decide +kernel)
    (by decide +kernel) files_obstructedTree files_convertAll_obstructedTree (by decide +kernel)
  rw [(convertAll_of_files files_convertAll_obstructedTree).2,
    (convertAll_of_files files_obstructedTree).1, (convertAll_of_files files_obstructedTree).2] at hsame
  revert hsame
  decide +kernel

end Conversion
end RequestScript
