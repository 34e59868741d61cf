import RequestScript.Conversion
import RequestScript.Proofs.Files.Listing
import RequestScript.Proofs.Files.Storing

/-!
# A conversion, file by file

A conversion gives one turn to each file that is listed.  A file is read and scanned first, which
changes nothing, and then its commands are stored.  So a turn leaves the tree as it found it, or
as storing leaves it, and the tree only grows from turn to turn.

Main results:

- Definition {lit}`Conversion.commandsOf`: the commands of a file, or why there are none.
- Theorem {lit}`Conversion.convertFile_cases`: what a turn does to the tree, and its outcome.
- Definition {lit}`Conversion.course`: the turns of a conversion.
- Theorem {lit}`Conversion.convertAll_eq_ok_iff`: a conversion reports the outcomes of its turns.
- Theorem {lit}`Conversion.grows_of_mem_turns`: every turn finds a tree that has grown.
-/

namespace RequestScript

namespace Conversion

variable {input : Input} {output : Output} {logger : Logger} {tree : FileTree} {source : Path}

/-! ## One file -/

/-- The commands of a file, or why it can not be read or scanned. -/
def commandsOf (tree : FileTree) (source : Path) : Except Failure (List Text) := do
  let content ← (Input.read tree source).mapError .unread
  (Script.commands content).mapError .malformed

/-- There are commands of a file exactly when it is read and its script can be scanned. -/
theorem commandsOf_eq_ok {commands : List Text} :
    commandsOf tree source = .ok commands ↔
      ∃ content, Input.read tree source = .ok content ∧ Script.commands content = .ok commands := by
  cases hread : Input.read tree source with
  | error cause => simp [commandsOf, hread, Except.mapError, bind, Except.bind]
  | ok content =>
    cases hscan : Script.commands content with
    | error cause => simp [commandsOf, hread, hscan, Except.mapError, bind, Except.bind]
    | ok others => simp [commandsOf, hread, hscan, Except.mapError, bind, Except.bind]

/-- Two paths to files with the same octets are read alike. -/
theorem read_eq_of_read {later : FileTree} {other : Path} {octets : List UInt8}
    (hread : tree.read source = .ok octets) (hother : later.read other = .ok octets) :
    Input.read later other = Input.read tree source := by
  rw [Input.read, Input.read, hread, hother]

/-- The commands of a file are those of its octets. -/
theorem commandsOf_eq_of_read {later : FileTree} {other : Path} {octets : List UInt8}
    (hread : tree.read source = .ok octets) (hother : later.read other = .ok octets) :
    commandsOf later other = commandsOf tree source := by
  rw [commandsOf, commandsOf, read_eq_of_read hread hother]

/-- The outcome of a file that is not converted. -/
def failedOutcome (source : Path) (failure : Failure) : Outcome :=
  { source, ok := false, errorMessage := some failure.message }

/-- The outcome of a file that is converted. -/
def writtenOutcome (source target : Path) (count : Nat) : Outcome :=
  { source, ok := true, output := some target, commandCount := count }

/-- The outcome of a file, from what came of storing its commands. -/
def outcomeOf (source : Path) : Except Failure (Path × Nat) → Outcome
  | .error failure => failedOutcome source failure
  | .ok (target, count) => writtenOutcome source target count

/-- A file whose script is not read or scanned changes nothing. -/
theorem process_of_error {failure : Failure} (h : commandsOf tree source = .error failure) :
    (process output logger tree source).tree = tree ∧
      (process output logger tree source).result = .error failure := by
  rw [commandsOf] at h
  rw [process]
  cases hread : Input.read tree source with
  | error cause =>
    rw [hread] at h
    cases h
    exact ⟨rfl, rfl⟩
  | ok content =>
    rw [hread] at h
    dsimp only
    cases hscan : Script.commands content with
    | error cause =>
      simp only [hscan, Except.mapError, bind, Except.bind] at h
      cases h
      exact ⟨rfl, rfl⟩
    | ok others =>
      simp only [hscan, Except.mapError, bind, Except.bind] at h
      cases h

/-- The commands of a file are written, and the outcome is that of writing. -/
theorem process_of_ok {commands : List Text} (h : commandsOf tree source = .ok commands) :
    (process output logger tree source).tree = (output.write tree source commands).1 ∧
      (process output logger tree source).result =
        ((output.write tree source commands).2.mapError .unwritten).map (·, commands.length) := by
  rcases commandsOf_eq_ok.mp h with ⟨content, hread, hscan⟩
  rw [process, hread]
  dsimp only
  rw [hscan]
  dsimp only
  rcases output.write tree source commands with ⟨after, fault | target⟩
  · exact ⟨rfl, rfl⟩
  · exact ⟨rfl, rfl⟩

/-- A turn changes the tree as its processing does. -/
theorem convertFile_tree (output : Output) (logger : Logger) (tree : FileTree) (source : Path) :
    (convertFile output logger tree source).tree =
      (process output (logger.bind (.ofList [("file".toList, .text source.text)])) tree
        source).tree := by
  unfold convertFile
  dsimp only
  split
  · rfl
  · rfl

/-- A turn has the outcome of its processing. -/
theorem convertFile_result (output : Output) (logger : Logger) (tree : FileTree) (source : Path) :
    (convertFile output logger tree source).result =
      outcomeOf source
        (process output (logger.bind (.ofList [("file".toList, .text source.text)])) tree
          source).result := by
  unfold convertFile
  dsimp only
  split
  · rename_i hresult
    rw [hresult]
    rfl
  · rename_i hresult
    rw [hresult]
    rfl

/-- A file that can not be read or scanned leaves the tree as it is. -/
theorem convertFile_of_error {failure : Failure} (h : commandsOf tree source = .error failure) :
    (convertFile output logger tree source).tree = tree ∧
      (convertFile output logger tree source).result = failedOutcome source failure := by
  rw [convertFile_tree, convertFile_result, (process_of_error h).2]
  exact ⟨(process_of_error h).1, rfl⟩

/-- A file that can be read and scanned leaves the tree as storing its commands does. -/
theorem convertFile_of_ok (output : Output) (logger : Logger) {commands : List Text}
    (h : commandsOf tree source = .ok commands) :
    (convertFile output logger tree source).tree = (output.write tree source commands).1 ∧
      (convertFile output logger tree source).result =
        match (output.write tree source commands).2 with
        | .error fault => failedOutcome source (.unwritten fault)
        | .ok target => writtenOutcome source target commands.length := by
  rw [convertFile_tree, convertFile_result, (process_of_ok h).2]
  refine ⟨(process_of_ok h).1, ?_⟩
  rcases output.write tree source commands with ⟨after, fault | target⟩
  · rfl
  · rfl

/-- What the turn of a file can do. -/
inductive Converting (output : Output) (tree : FileTree) (source : Path) :
    FileTree → Outcome → Prop
  /-- The file can not be read or scanned. -/
  | unscanned {failure : Failure} (h : commandsOf tree source = .error failure) :
      Converting output tree source tree (failedOutcome source failure)
  /-- Its commands can not be stored. -/
  | unwritten {commands : List Text} {after : FileTree} {fault : FileTree.Fault}
      (h : commandsOf tree source = .ok commands)
      (hwrite : output.write tree source commands = (after, .error fault)) :
      Converting output tree source after (failedOutcome source (.unwritten fault))
  /-- Its commands are stored. -/
  | written {commands : List Text} {after : FileTree} {target : Path}
      (h : commandsOf tree source = .ok commands)
      (hwrite : output.write tree source commands = (after, .ok target)) :
      Converting output tree source after (writtenOutcome source target commands.length)

/-- What a turn does is one of the ways to convert a file. -/
theorem convertFile_cases (output : Output) (logger : Logger) (tree : FileTree) (source : Path) :
    Converting output tree source (convertFile output logger tree source).tree
      (convertFile output logger tree source).result := by
  cases h : commandsOf tree source with
  | error failure =>
    rw [(convertFile_of_error h).1, (convertFile_of_error h).2]
    exact .unscanned h
  | ok commands =>
    rw [(convertFile_of_ok output logger h).1, (convertFile_of_ok output logger h).2]
    rcases hwrite : output.write tree source commands with ⟨after, fault | target⟩
    · exact .unwritten h hwrite
    · exact .written h hwrite

namespace Converting

variable {after : FileTree} {outcome : Outcome}

/-- However a turn ends, the tree only grows. -/
theorem grows (h : Converting output tree source after outcome) : tree.Grows after := by
  cases h with
  | unscanned h => exact .refl tree
  | unwritten h hwrite => exact (Output.storing_of_write hwrite).grows
  | written h hwrite => exact (Output.storing_of_write hwrite).grows

/-- The outcome of a turn is about its source. -/
theorem source_eq (h : Converting output tree source after outcome) :
    outcome.source = source := by
  cases h with
  | unscanned h => rfl
  | unwritten h hwrite => rfl
  | written h hwrite => rfl

/-- A turn changes no place but that of its commands, directories that are made apart. -/
theorem entryAt (h : Converting output tree source after outcome) {place : Location}
    (hplace : place ≠ tree.destination (output.path source)) :
    after.entryAt place = tree.entryAt place ∨
      (tree.entryAt place = none ∧ after.entryAt place = some .directory) := by
  cases h with
  | unscanned h => exact Or.inl rfl
  | unwritten h hwrite => exact (Output.storing_of_write hwrite).entryAt hplace
  | written h hwrite => exact (Output.storing_of_write hwrite).entryAt hplace

/-- A turn that fails changes no place, directories that are made apart. -/
theorem entryAt_of_failed (h : Converting output tree source after outcome)
    (hfailed : outcome.ok = false) (place : Location) :
    after.entryAt place = tree.entryAt place ∨
      (tree.entryAt place = none ∧ after.entryAt place = some .directory) := by
  cases h with
  | unscanned h => exact Or.inl rfl
  | unwritten h hwrite =>
    cases Output.storing_of_write hwrite with
    | unmade hmake => exact (FileTree.makeDirectories_gains hmake).kept place
    | unopened hmake => exact (FileTree.makeDirectories_gains hmake).kept place
  | written h hwrite => cases hfailed

/-- A turn leaves a file as it is, unless its commands are stored there. -/
theorem entryAt_file (h : Converting output tree source after outcome) {place : Location}
    {octets : List UInt8} (hplace : tree.entryAt place = some (.file octets))
    (hfree : outcome.ok = true → tree.destination (output.path source) ≠ place) :
    after.entryAt place = some (.file octets) := by
  have hkept : after.entryAt place = tree.entryAt place ∨
      (tree.entryAt place = none ∧ after.entryAt place = some .directory) := by
    cases hok : outcome.ok with
    | false => exact h.entryAt_of_failed hok place
    | true => exact h.entryAt (Ne.symm (hfree hok))
  rcases hkept with hsame | ⟨hnone, -⟩
  · rw [hsame, hplace]
  · rw [hplace] at hnone
    cases hnone

end Converting

/-! ## All files -/

/-- The turn of a file: the tree that it finds, the file, and what comes of it. -/
structure Turn where
  before : FileTree
  source : Path
  effect : Effect Outcome

namespace Turn

/-- The tree that a turn leaves. -/
def after (turn : Turn) : FileTree :=
  turn.effect.tree

/-- The outcome of a turn. -/
def outcome (turn : Turn) : Outcome :=
  turn.effect.result

end Turn

/-- The turns of files that are converted one after another. -/
def turns (output : Output) (logger : Logger) (tree : FileTree) : List Path → List Turn
  | [] => []
  | source :: rest =>
    let effect := convertFile output logger tree source
    ⟨tree, source, effect⟩ :: turns output logger effect.tree rest

/-- The turns of a conversion. -/
def course (input : Input) (output : Output) (logger : Logger) (tree : FileTree) : List Turn :=
  match input.files tree with
  | .error _ => []
  | .ok paths => turns output logger tree paths

/-- The first turn finds the tree at hand, and the others the tree that it leaves. -/
theorem turns_cons (output : Output) (logger : Logger) (tree : FileTree) (source : Path)
    (rest : List Path) :
    turns output logger tree (source :: rest) =
      ⟨tree, source, convertFile output logger tree source⟩ ::
        turns output logger (convertFile output logger tree source).tree rest := rfl

/-- The course of a conversion is made of the turns of its files. -/
theorem course_of_files {paths : List Path} (h : input.files tree = .ok paths) :
    course input output logger tree = turns output logger tree paths := by
  rw [course, h]

/-- There are turns only where files are listed. -/
theorem files_of_mem_course {turn : Turn} (h : turn ∈ course input output logger tree) :
    ∃ paths, input.files tree = .ok paths ∧ turn ∈ turns output logger tree paths := by
  rw [course] at h
  split at h
  · cases h
  · rename_i paths hfiles
    exact ⟨paths, hfiles, h⟩

@[simp]
theorem sources_turns (output : Output) (logger : Logger) (tree : FileTree) (paths : List Path) :
    (turns output logger tree paths).map Turn.source = paths := by
  induction paths generalizing tree with
  | nil => rfl
  | cons source rest ih => rw [turns_cons, List.map_cons, ih]

/-- The outcomes of a conversion are those of its turns. -/
theorem outcomes_turns (output : Output) (logger : Logger) (tree : FileTree) (paths : List Path) :
    (convertFiles output logger tree paths).result =
      (turns output logger tree paths).map Turn.outcome := by
  induction paths generalizing tree with
  | nil => rfl
  | cons source rest ih =>
    rw [convertFiles_cons, turns_cons, List.map_cons, ← ih]
    rfl

/-- The events of a conversion are those of its turns, one turn after another. -/
theorem events_turns (output : Output) (logger : Logger) (tree : FileTree) (paths : List Path) :
    (convertFiles output logger tree paths).events =
      (turns output logger tree paths).flatMap fun turn => turn.effect.events := by
  induction paths generalizing tree with
  | nil => rfl
  | cons source rest ih =>
    rw [convertFiles_cons, turns_cons, List.flatMap_cons, ← ih]

/-- The tree that is left is the one that the later turns leave. -/
theorem convertFiles_tree_cons (output : Output) (logger : Logger) (tree : FileTree)
    (source : Path) (rest : List Path) :
    (convertFiles output logger tree (source :: rest)).tree =
      (convertFiles output logger (convertFile output logger tree source).tree rest).tree := rfl

/-- Files can be converted in two parts. -/
theorem convertFiles_tree_append (output : Output) (logger : Logger) (tree : FileTree)
    (front back : List Path) :
    (convertFiles output logger tree (front ++ back)).tree =
      (convertFiles output logger (convertFiles output logger tree front).tree back).tree := by
  induction front generalizing tree with
  | nil => rfl
  | cons source front ih => rw [List.cons_append, convertFiles_tree_cons, ih]; rfl

/-- A conversion that reports has listed its files, and reports the outcomes of their turns. -/
theorem convertAll_of_files {paths : List Path} (h : input.files tree = .ok paths) :
    (convertAll input output logger tree).tree = (convertFiles output logger tree paths).tree ∧
      (convertAll input output logger tree).result =
        .ok ⟨(turns output logger tree paths).map Turn.outcome⟩ := by
  rcases Input.exists_of_files h with ⟨there, hthere⟩
  rw [← outcomes_turns, convertAll, hthere]
  cases there with
  | false =>
    rw [Input.files_of_missing hthere] at h
    cases h
    exact ⟨rfl, rfl⟩
  | true =>
    dsimp only
    rw [convertFound, h]
    exact ⟨rfl, rfl⟩

/-- A conversion ends without a report when its files can not be looked for. -/
theorem convertAll_of_files_eq_error {fault : Input.SearchFault}
    (h : input.files tree = .error fault) :
    (convertAll input output logger tree).tree = tree ∧
      (convertAll input output logger tree).result = .error fault := by
  rw [convertAll]
  cases hthere : input.exists tree with
  | error cause =>
    rw [Input.files, hthere] at h
    cases h
    exact ⟨rfl, rfl⟩
  | ok there =>
    cases there with
    | false =>
      rw [Input.files_of_missing hthere] at h
      cases h
    | true =>
      dsimp only
      rw [convertFound, h]
      exact ⟨rfl, rfl⟩

/-- A conversion reports exactly when files are listed, and then the outcomes of its turns. -/
theorem convertAll_eq_ok_iff {report : Report} :
    (convertAll input output logger tree).result = .ok report ↔
      ∃ paths, input.files tree = .ok paths ∧
        report = ⟨(turns output logger tree paths).map Turn.outcome⟩ := by
  cases hfiles : input.files tree with
  | error fault =>
    rw [(convertAll_of_files_eq_error hfiles).2]
    simp
  | ok paths =>
    rw [(convertAll_of_files hfiles).2]
    simp [eq_comm]

/-! ## What turns find -/

/-- A turn leaves a tree that has grown. -/
theorem grows_convertFile (output : Output) (logger : Logger) (tree : FileTree) (source : Path) :
    tree.Grows (convertFile output logger tree source).tree :=
  (convertFile_cases output logger tree source).grows

/-- A conversion leaves a tree that has grown. -/
theorem grows_convertFiles (output : Output) (logger : Logger) (tree : FileTree)
    (paths : List Path) : tree.Grows (convertFiles output logger tree paths).tree := by
  induction paths generalizing tree with
  | nil => exact .refl tree
  | cons source rest ih =>
    rw [convertFiles_tree_cons]
    exact (grows_convertFile output logger tree source).trans (ih _)

/-- A turn of a conversion stands between the turns before and after it. -/
theorem turns_eq_append {paths : List Path} {earlier later : List Turn} {turn : Turn}
    (h : turns output logger tree paths = earlier ++ turn :: later) :
    ∃ front back, paths = front ++ turn.source :: back ∧
      earlier = turns output logger tree front ∧
      turn.before = (convertFiles output logger tree front).tree ∧
      turn.effect = convertFile output logger turn.before turn.source ∧
      later = turns output logger turn.after back := by
  induction earlier generalizing tree paths with
  | nil =>
    cases paths with
    | nil => cases h
    | cons source rest =>
      rw [turns_cons, List.nil_append, List.cons.injEq] at h
      rcases h with ⟨rfl, rfl⟩
      exact ⟨[], rest, rfl, rfl, rfl, rfl, rfl⟩
  | cons first earlier ih =>
    cases paths with
    | nil => cases h
    | cons source rest =>
      rw [turns_cons, List.cons_append, List.cons.injEq] at h
      rcases h with ⟨rfl, hrest⟩
      rcases ih hrest with ⟨front, back, rfl, rfl, hbefore, heffect, hlater⟩
      exact ⟨source :: front, back, rfl, rfl, hbefore, heffect, hlater⟩

/-- Every turn has the effect of converting its source on the tree that it finds. -/
theorem effect_of_mem_turns {paths : List Path} {turn : Turn}
    (h : turn ∈ turns output logger tree paths) :
    turn.effect = convertFile output logger turn.before turn.source := by
  rcases List.append_of_mem h with ⟨earlier, later, hsplit⟩
  rcases turns_eq_append hsplit with ⟨front, back, -, -, -, heffect, -⟩
  exact heffect

/-- Every turn is one of the ways to convert a file. -/
theorem converting_of_mem_turns {paths : List Path} {turn : Turn}
    (h : turn ∈ turns output logger tree paths) :
    Converting output turn.before turn.source turn.after turn.outcome := by
  rw [Turn.after, Turn.outcome, effect_of_mem_turns h]
  exact convertFile_cases output logger turn.before turn.source

/-- Every turn is that of a listed file. -/
theorem mem_of_mem_turns {paths : List Path} {turn : Turn}
    (h : turn ∈ turns output logger tree paths) : turn.source ∈ paths := by
  rw [← sources_turns output logger tree paths]
  exact List.mem_map_of_mem h

/-- The outcomes are about the listed files, in their order. -/
theorem sources_outcomes_turns (output : Output) (logger : Logger) (tree : FileTree)
    (paths : List Path) :
    ((turns output logger tree paths).map Turn.outcome).map Outcome.source = paths := by
  have hsame : ∀ turn ∈ turns output logger tree paths, turn.outcome.source = turn.source :=
    fun turn hturn => (converting_of_mem_turns hturn).source_eq
  rw [List.map_map]
  exact (List.map_congr_left hsame).trans (sources_turns output logger tree paths)

/-- Every listed file has a turn. -/
theorem exists_mem_turns {paths : List Path} (h : source ∈ paths) :
    ∃ turn ∈ turns output logger tree paths, turn.source = source := by
  rw [← sources_turns output logger tree paths] at h
  exact List.mem_map.mp h

/-- A turn finds a tree that has grown from the first one. -/
theorem grows_of_mem_turns {paths : List Path} {turn : Turn}
    (h : turn ∈ turns output logger tree paths) : tree.Grows turn.before := by
  rcases List.append_of_mem h with ⟨earlier, later, hsplit⟩
  rcases turns_eq_append hsplit with ⟨front, back, -, -, hbefore, -, -⟩
  rw [hbefore]
  exact grows_convertFiles output logger tree front

/-- A turn leaves a tree that has grown from the first one. -/
theorem grows_after_of_mem_turns {paths : List Path} {turn : Turn}
    (h : turn ∈ turns output logger tree paths) : tree.Grows turn.after :=
  (grows_of_mem_turns h).trans (converting_of_mem_turns h).grows

/-- What a conversion leaves is what the turns after any of them make of its tree. -/
theorem convertFiles_tree_of_turns_eq_append {paths : List Path} {earlier later : List Turn}
    {turn : Turn} (h : turns output logger tree paths = earlier ++ turn :: later) :
    ∃ back, later = turns output logger turn.after back ∧
      (convertFiles output logger tree paths).tree =
        (convertFiles output logger turn.after back).tree := by
  rcases turns_eq_append h with ⟨front, back, rfl, -, hbefore, heffect, hlater⟩
  refine ⟨back, hlater, ?_⟩
  rw [convertFiles_tree_append, convertFiles_tree_cons, ← hbefore, ← heffect]
  rfl

/-- A conversion leaves a file as it is, unless the commands of a turn are stored there. -/
theorem entryAt_convertFiles_file (output : Output) (logger : Logger) {paths : List Path}
    {place : Location} {octets : List UInt8} (hplace : tree.entryAt place = some (.file octets))
    (hfree : ∀ turn ∈ turns output logger tree paths, turn.outcome.ok = true →
      tree.destination (output.path turn.source) ≠ place) :
    (convertFiles output logger tree paths).tree.entryAt place = some (.file octets) := by
  induction paths generalizing tree with
  | nil => exact hplace
  | cons source rest ih =>
    rw [turns_cons] at hfree
    rw [convertFiles_tree_cons]
    have hgrows := grows_convertFile output logger tree source
    apply ih
    · exact (convertFile_cases output logger tree source).entryAt_file hplace
        (hfree _ List.mem_cons_self)
    · intro turn hturn hok
      rw [hgrows.destination]
      exact hfree turn (List.mem_cons_of_mem _ hturn) hok

/-- A file reads as it did when no commands are stored in it. -/
theorem read_convertFiles (output : Output) (logger : Logger) {paths : List Path}
    {octets : List UInt8} (hread : tree.read source = .ok octets)
    (hapart : ∀ other ∈ paths, tree.destination source ≠ tree.destination (output.path other)) :
    (convertFiles output logger tree paths).tree.read source = .ok octets := by
  rcases FileTree.read_eq_ok.mp hread with ⟨place, hlocate, hplace⟩
  apply (grows_convertFiles output logger tree paths).read_eq_ok hread
  rw [FileTree.destination_of_locate hlocate] at hapart ⊢
  rw [hplace]
  apply entryAt_convertFiles_file output logger hplace
  intro turn hturn _
  exact Ne.symm (hapart turn.source (mem_of_mem_turns hturn))

/-! ## Two directories -/

/-- Feature files in a directory {lit}`f`. -/
def sampleInput : Input := { directory := .ofText "f".toList }

/-- Command files in a directory {lit}`o`. -/
def sampleOutput : Output := { directory := .ofText "o".toList }

/-- The octets of a feature file with one request. -/
def sampleScript : List UInt8 := Utf8.encode "* url 'http://h'\n* method get\n".toList

/-- Feature files of the sample directory that are found in order. -/
theorem files_sampleInput {paths found : List Path}
    (hthere : sampleInput.exists tree = .ok true)
    (hfound : Glob.select tree [.wild (Glob.pieces "*.feature".toList)] sampleInput.directory =
      .ok found)
    (hfiles : Glob.gather (kept tree.isFile) found = .ok paths)
    (hsorted : paths.Pairwise fun a b => Path.le a b = true) :
    sampleInput.files tree = .ok paths := by
  have hsteps : Glob.stepsOf sampleInput.pattern =
      .ok [.wild (Glob.pieces "*.feature".toList)] := by
    decide +kernel
  exact Input.files_of_sorted hthere hsteps hfound hfiles hsorted

end Conversion
end RequestScript
