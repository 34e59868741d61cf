import Mathlib.Algebra.Ring.Int.Defs
import RequestScript.Proofs.CommandLine.Attempts
import RequestScript.Proofs.Conversion.Turns
import RequestScript.Proofs.Records

/-!
# The events of a conversion

Every turn of a conversion tells a block of events about its file: that it starts, each request
that is issued, and how it ends.  The ends of the blocks are the outcomes of the report, and what
is told last sums them up.  So the events and the report of a conversion tell the same story.

Main results:

- Definition {lit}`Conversion.Tells`: a block of events tells an outcome.
- Theorem {lit}`Conversion.tells_convertFile`: the events of one turn.
- Theorem {lit}`Conversion.log_tells_report`: the events of a conversion.
-/

namespace RequestScript

namespace Conversion

variable {input : Input} {output : Output} {logger : Logger} {tree : FileTree} {source : Path}

/-- A logger for the events of a file. -/
def fileLogger (logger : Logger) (source : Path) : Logger :=
  logger.bind (.ofList [("file".toList, .text source.text)])

/-- An event carries the path of a file. -/
def Carries (source : Path) (event : Event) : Prop :=
  event.fields.get? "file".toList = some (.text source.text)

/-- An event of the logger of a file carries its path, unless it has a field of that name itself. -/
theorem carries_event (logger : Logger) (source : Path) (level : Level) (name : Text)
    (writes : List (Text × Value)) (h : (OrderedMap.ofList writes).get? "file".toList = none) :
    Carries source ((fileLogger logger source).event level name (.ofList writes)) := by
  rw [Carries, field_event, h, Option.none_or, fileLogger, Logger.bind_bound,
    OrderedMap.get?_merge _ (OrderedMap.nodup_keys_ofList _)]
  rfl

/-! ## The events of a turn -/

/-- How a block of events ends when {lit}`count` requests have been told: the file is not
converted, or it is, with a warning when there are no requests. -/
inductive Closing (outcome : Outcome) (count : Nat) : List Event → Prop
  | failed {last : Event} (hname : last.name = "conversion.file_failed".toList)
      (hok : outcome.ok = false) (hcount : outcome.commandCount = 0)
      (houtput : outcome.output = none) : Closing outcome count [last]
  | empty {warning last : Event} (hwarning : warning.name = "conversion.no_commands".toList)
      (hname : last.name = "conversion.file_written".toList)
      (hcommands : last.fields.get? "commands".toList = some (.int count))
      (hnone : count = 0) (hok : outcome.ok = true) (hcount : outcome.commandCount = count) :
      Closing outcome count [warning, last]
  | written {last : Event} (hname : last.name = "conversion.file_written".toList)
      (hcommands : last.fields.get? "commands".toList = some (.int count))
      (hsome : count ≠ 0) (hok : outcome.ok = true) (hcount : outcome.commandCount = count) :
      Closing outcome count [last]

/-- A block of events tells an outcome: all of them carry the path of its file, and they are a
start, the requests by their places, and an end. -/
structure Tells (events : List Event) (outcome : Outcome) : Prop where
  carries : ∀ event ∈ events, Carries outcome.source event
  shape : ∃ start emitted closing, events = start :: emitted ++ closing ∧
    start.name = "conversion.file_start".toList ∧
    (∀ (index : Nat) event, emitted[index]? = some event →
      event.name = "parser.command_emitted".toList ∧
        event.fields.get? "index".toList = some (.int index)) ∧
    Closing outcome emitted.length closing

/-- A block ends with the event of a written file exactly when the file is converted. -/
theorem Tells.ok_iff {events : List Event} {outcome : Outcome} (h : Tells events outcome) :
    outcome.ok = true ↔
      ∃ last, events.getLast? = some last ∧ last.name = "conversion.file_written".toList := by
  rcases h.shape with ⟨start, emitted, closing, rfl, -, -, hclosing⟩
  cases hclosing with
  | failed hname hok hcount houtput =>
    rw [List.getLast?_append_of_ne_nil _ (by simp), List.getLast?_singleton, hok]
    constructor
    · intro htrue
      cases htrue
    · rintro ⟨other, hother, hwritten⟩
      cases hother
      rw [hname] at hwritten
      exact absurd hwritten (by decide)
  | empty hwarning hname hcommands hnone hok hcount =>
    rw [List.getLast?_append_of_ne_nil _ (by simp)]
    exact iff_of_true hok ⟨_, rfl, hname⟩
  | written hname hcommands hsome hok hcount =>
    rw [List.getLast?_append_of_ne_nil _ (by simp)]
    exact iff_of_true hok ⟨_, rfl, hname⟩

/-- A file that is not converted has no commands. -/
theorem Tells.commandCount_of_failed {events : List Event} {outcome : Outcome}
    (h : Tells events outcome) (hfailed : outcome.ok = false) : outcome.commandCount = 0 := by
  rcases h.shape with ⟨start, emitted, closing, -, -, -, hclosing⟩
  cases hclosing with
  | failed hname hok hcount houtput => exact hcount
  | empty hwarning hname hcommands hnone hok hcount =>
    rw [hok] at hfailed
    cases hfailed
  | written hname hcommands hsome hok hcount =>
    rw [hok] at hfailed
    cases hfailed

/-- A turn tells requests, and when the file is converted these are all its commands. -/
theorem exists_events_process (output : Output) (logger : Logger) (tree : FileTree)
    (source : Path) :
    ∃ requests, (process output logger tree source).events = emissionEventsFrom logger 0 requests ∧
      ∀ target count, (process output logger tree source).result = .ok (target, count) →
        count = requests.length := by
  cases hread : Input.read tree source with
  | error cause =>
    have hprocess : process output logger tree source = ⟨tree, [], .error (.unread cause)⟩ := by
      rw [process, hread]
    rw [hprocess]
    exact ⟨[], rfl, fun target count h => by cases h⟩
  | ok content =>
    refine ⟨(Script.scan content).requests, ?_⟩
    cases hscan : Script.commands content with
    | error cause =>
      have hprocess : process output logger tree source =
          ⟨tree, scanEvents logger content, .error (.malformed cause)⟩ := by
        rw [process, hread]
        dsimp only
        rw [hscan]
      rw [hprocess]
      exact ⟨rfl, fun target count h => by cases h⟩
    | ok commands =>
      rcases except_map_eq_ok.mp hscan with ⟨requests, hrequests, hcommands⟩
      have hlength : commands.length = (Script.scan content).requests.length := by
        rw [← hcommands, List.length_map, (Script.requests_eq_ok.mp hrequests).2]
      rw [process, hread]
      dsimp only
      rw [hscan]
      dsimp only
      rcases output.write tree source commands with ⟨after, fault | stored⟩
      · exact ⟨rfl, fun target count h => by cases h⟩
      · refine ⟨rfl, fun target count h => ?_⟩
        cases h
        exact hlength

/-- The events that end a block. -/
def closingEvents (logger : Logger) : Except Failure (Path × Nat) → List Event
  | .error failure =>
    [logger.event .error "conversion.file_failed".toList
      (.ofList [("error".toList, .text failure.message),
        ("error_type".toList, .text failure.kind)])]
  | .ok (target, count) =>
    (if count = 0 then [logger.event .warning "conversion.no_commands".toList (.ofList [])]
      else []) ++
    [logger.event .info "conversion.file_written".toList
      (.ofList [("output".toList, .text target.text), ("commands".toList, .int count)])]

/-- A turn tells that it starts, then what its processing tells, then how it ends. -/
theorem events_convertFile (output : Output) (logger : Logger) (tree : FileTree) (source : Path) :
    (convertFile output logger tree source).events =
      (fileLogger logger source).event .info "conversion.file_start".toList (.ofList []) ::
        (process output (fileLogger logger source) tree source).events ++
          closingEvents (fileLogger logger source)
            (process output (fileLogger logger source) tree source).result := by
  unfold convertFile
  dsimp only
  rw [fileLogger]
  split
  · rename_i hresult
    rw [hresult]
    rfl
  · rename_i hresult
    rw [hresult, closingEvents, ← List.append_assoc]
    rfl

/-- The events that close a turn carry the path of its file. -/
theorem carries_of_mem_closingEvents {result : Except Failure (Path × Nat)} {event : Event}
    (h : event ∈ closingEvents (fileLogger logger source) result) : Carries source event := by
  cases result with
  | error failure =>
    rw [closingEvents, List.mem_singleton] at h
    rw [h]
    exact carries_event logger source _ _ _ rfl
  | ok stored =>
    rcases stored with ⟨target, count⟩
    rw [closingEvents, List.mem_append, List.mem_singleton] at h
    rcases h with hwarning | hlast
    · split at hwarning
      · rw [List.mem_singleton.mp hwarning]
        exact carries_event logger source _ _ _ rfl
      · cases hwarning
    · rw [hlast]
      exact carries_event logger source _ _ _ rfl

/-- A turn ends as its result says. -/
theorem closing_closingEvents (source : Path) {result : Except Failure (Path × Nat)} {count : Nat}
    (h : ∀ target found, result = .ok (target, found) → found = count) :
    Closing (outcomeOf source result) count (closingEvents logger result) := by
  cases result with
  | error failure => exact .failed rfl rfl rfl rfl
  | ok stored =>
    rcases stored with ⟨target, found⟩
    have hfound : found = count := h target found rfl
    subst hfound
    by_cases hnone : found = 0
    · rw [closingEvents, if_pos hnone]
      exact .empty rfl rfl (field_event _ _ _ _ _) hnone rfl rfl
    · rw [closingEvents, if_neg hnone]
      exact .written rfl (field_event _ _ _ _ _) hnone rfl rfl

/-- The events of a turn tell its outcome. -/
theorem tells_convertFile (output : Output) (logger : Logger) (tree : FileTree) (source : Path) :
    Tells (convertFile output logger tree source).events
      (convertFile output logger tree source).result := by
  rcases exists_events_process output (fileLogger logger source) tree source with
    ⟨requests, hevents, hcount⟩
  rw [← length_emissionEventsFrom (fileLogger logger source) 0 requests] at hcount
  have hsource := (convertFile_cases output logger tree source).source_eq
  constructor
  · intro event hevent
    rw [events_convertFile, hevents] at hevent
    rw [hsource]
    rcases List.mem_append.mp hevent with hfront | hclosing
    · rcases List.mem_cons.mp hfront with rfl | hemitted
      · exact carries_event logger source _ _ _ rfl
      · rcases List.getElem?_of_mem hemitted with ⟨index, hindex⟩
        rcases exists_of_getElem?_emissionEventsFrom hindex with ⟨request, rfl⟩
        exact carries_event logger source _ _ _ rfl
    · exact carries_of_mem_closingEvents hclosing
  · rw [events_convertFile, hevents]
    refine ⟨_, _, _, rfl, rfl, fun index event hindex => ?_, ?_⟩
    · rcases exists_of_getElem?_emissionEventsFrom hindex with ⟨request, rfl⟩
      refine ⟨rfl, ?_⟩
      rw [emissionEvent, field_event, Nat.zero_add]
      rfl
    · rw [convertFile_result]
      exact closing_closingEvents source hcount

/-! ## The events of a conversion -/

/-- What a turn does does not depend on its logger. -/
theorem convertFile_logger (output : Output) (logger other : Logger) (tree : FileTree)
    (source : Path) :
    (convertFile output logger tree source).tree = (convertFile output other tree source).tree ∧
      (convertFile output logger tree source).result =
        (convertFile output other tree source).result := by
  cases h : commandsOf tree source with
  | error failure =>
    rw [(convertFile_of_error h).1, (convertFile_of_error h).2, (convertFile_of_error h).1,
      (convertFile_of_error h).2]
    exact ⟨rfl, rfl⟩
  | ok commands =>
    rw [(convertFile_of_ok output logger h).1, (convertFile_of_ok output logger h).2,
      (convertFile_of_ok output other h).1, (convertFile_of_ok output other h).2]
    exact ⟨rfl, rfl⟩

/-- The outcomes of turns do not depend on their logger. -/
theorem outcomes_turns_logger (output : Output) (logger other : Logger) (tree : FileTree)
    (paths : List Path) :
    (turns output logger tree paths).map Turn.outcome =
      (turns output other tree paths).map Turn.outcome := by
  induction paths generalizing tree with
  | nil => rfl
  | cons source rest ih =>
    rcases convertFile_logger output logger other tree source with ⟨htree, hresult⟩
    rw [turns_cons, turns_cons, List.map_cons, List.map_cons, htree, ih, Turn.outcome,
      Turn.outcome, hresult]

/-- The blocks of events of turns tell their outcomes. -/
theorem tells_turns (output : Output) (logger : Logger) (tree : FileTree) (paths : List Path) :
    List.Forall₂ Tells ((turns output logger tree paths).map fun turn => turn.effect.events)
      ((turns output logger tree paths).map Turn.outcome) := by
  induction paths generalizing tree with
  | nil => exact .nil
  | cons source rest ih =>
    rw [turns_cons, List.map_cons, List.map_cons]
    exact .cons (tells_convertFile output logger tree source) (ih _)

/-- A report is in order exactly when every block ends with a file that is written. -/
theorem ok_iff_of_tells {blocks : List (List Event)} {outcomes : List Outcome}
    (h : List.Forall₂ Tells blocks outcomes) :
    (Report.mk outcomes).ok = true ↔ ∀ block ∈ blocks, ∃ last, block.getLast? = some last ∧
      last.name = "conversion.file_written".toList := by
  rw [Report.ok]
  dsimp only
  induction h with
  | nil => simp
  | cons hblock _ ih => rw [List.all_cons, Bool.and_eq_true, hblock.ok_iff, ih, List.forall_mem_cons]

/-- Only converted files count commands. -/
theorem commandCount_of_tells {blocks : List (List Event)} {outcomes : List Outcome}
    (h : List.Forall₂ Tells blocks outcomes) :
    (Report.mk outcomes).commandCount =
      ((outcomes.filter (·.ok)).map Outcome.commandCount).sum := by
  rw [Report.commandCount]
  dsimp only
  induction h with
  | nil => rfl
  | @cons events outcome blocks outcomes hblock _ ih =>
    rw [List.foldr_cons, ih]
    cases hok : outcome.ok with
    | true => rw [List.filter_cons_of_pos hok, List.map_cons, List.sum_cons]
    | false =>
      rw [List.filter_cons_of_neg (by simp [hok]), hblock.commandCount_of_failed hok, Int.zero_add]

/-- The event that sums up a report. -/
def doneEvent (logger : Logger) (report : Report) : Event :=
  logger.event .info "conversion.done".toList
    (.ofList [("files".toList, .int report.outcomes.length),
      ("failed".toList, .int report.failed.length),
      ("commands".toList, .int report.commandCount)])

/-- A conversion tells that it starts, then its turns, then its sum. -/
theorem events_convertAll (output : Output) (logger : Logger) {paths : List Path}
    (hthere : input.exists tree = .ok true) (hfiles : input.files tree = .ok paths) :
    (convertAll input output logger tree).events =
      logger.event .info "conversion.start".toList ∅ ::
        ((turns output logger tree paths).map fun turn => turn.effect.events).flatten ++
          [doneEvent logger ⟨(turns output logger tree paths).map Turn.outcome⟩] := by
  rw [convertAll, hthere]
  dsimp only
  rw [convertFound, hfiles]
  dsimp only
  rw [← outcomes_turns, ← List.flatMap_def, ← events_turns]
  rfl

/-- Every output takes the sum of a report in which no file failed. -/
theorem takesText_of_mem_summary {report : Report} (hok : report.ok = true) (host : Host)
    {text : Text} (htext : text ∈ Converter.summary report) : host.takesText text = true := by
  have hfiles : Text.isAscii "Files: ".toList = true := by decide
  have hcommands : Text.isAscii "Commands: ".toList = true := by decide
  have hend : Text.isAscii ['\n'] = true := rfl
  rw [Converter.summary, report.ok_iff_failed_eq_nil.mp hok, List.map_nil, List.append_nil] at htext
  apply host.takesText_of_isAscii
  rcases List.mem_pair.mp htext with rfl | rfl
  · simp only [Text.isAscii_append, hfiles, Text.isAscii_ofNat, hend, Bool.and_self]
  · simp only [Text.isAscii_append, hcommands, Text.isAscii_ofInt, hend, Bool.and_self]

/-- On every host, the converter ends with 0 exactly when every file is converted. -/
theorem ending_convert {arguments : CommandLine.Arguments Converter.Choice}
    {environment : Environment} {settings : Settings} {report : Report} (host : Host)
    (hsettings : Converter.settingsOf arguments environment tree = .ok settings)
    (hlevel : (Level.ofName? (Text.upper settings.logLevel)).isSome)
    (hreport : (convertAll ⟨settings.featuresDirectory, settings.pattern⟩
      ⟨settings.outputDirectory, settings.outputSuffix⟩ {} tree).result = .ok report) :
    (Converter.convert arguments environment tree host).ending = .exit 0 ↔ report.ok = true := by
  have hattempt := Converter.attempt_convert_of_readied
    (Converter.readied_eq_ok.mpr ⟨hsettings, hlevel⟩)
  rw [Converter.inputOf, Converter.outputOf, hreport] at hattempt
  have htold := Converter.told_convert arguments environment tree host
  rw [hattempt] at htold
  cases htold with
  | found hwrites =>
    have hsum : Converter.Writes host (Converter.convert arguments environment tree host)
        (Converter.summary report) (if report.ok then 0 else 1) := hwrites
    cases hok : report.ok with
    | true =>
      rw [hok] at hsum
      cases hsum with
      | all htaken houtput hending => simp [hending]
      | @upTo front text back hsplit hfront huntaken houtput hending =>
        have htext : text ∈ Converter.summary report := by
          rw [hsplit]
          simp
        rw [takesText_of_mem_summary hok host htext] at huntaken
        cases huntaken
    | false =>
      rw [hok] at hsum
      cases hsum with
      | all htaken houtput hending => simp [hending]
      | upTo hsplit hfront huntaken houtput hending => simp [hending]

/-- The events of a conversion are a start, a block for each file, and an end that sums up the
report, and the report has the outcomes that the blocks tell.  Only a path that is too long ends a
conversion without a report. -/
theorem log_tells_report (output : Output) (logger : Logger) (hwf : tree.WellFormed)
    (hthere : input.exists tree = .ok true) {steps : List Glob.Step}
    (hsteps : Glob.stepsOf input.pattern = .ok steps) :
    (∃ (fault : FileTree.Fault) (start : Event), fault.IsTooLong ∧
      input.files tree = .error (.path fault) ∧
      start.name = "conversion.start".toList ∧
      convertAll input output logger tree = ⟨tree, [start], .error (.path fault)⟩) ∨
    ∃ paths report start blocks done, input.files tree = .ok paths ∧
      (convertAll input output logger tree).result = .ok report ∧
      report.outcomes.map Outcome.source = paths ∧
      (convertAll input output logger tree).events = start :: blocks.flatten ++ [done] ∧
      start.name = "conversion.start".toList ∧
      List.Forall₂ Tells blocks report.outcomes ∧
      done.name = "conversion.done".toList ∧
      done.fields.get? "files".toList = some (.int report.outcomes.length) ∧
      done.fields.get? "failed".toList =
        some (.int (report.outcomes.filter fun outcome => !outcome.ok).length) ∧
      done.fields.get? "commands".toList =
        some (.int ((report.outcomes.filter (·.ok)).map Outcome.commandCount).sum) ∧
      ∀ arguments environment settings host,
        Converter.settingsOf arguments environment tree = .ok settings →
        (Level.ofName? (Text.upper settings.logLevel)).isSome →
        input = ⟨settings.featuresDirectory, settings.pattern⟩ →
        output = ⟨settings.outputDirectory, settings.outputSuffix⟩ →
        ((Converter.convert arguments environment tree host).ending = .exit 0 ↔
          ∀ block ∈ blocks, ∃ last, block.getLast? = some last ∧
            last.name = "conversion.file_written".toList) := by
  cases hfiles : input.files tree with
  | error fault =>
    left
    rcases Input.isTooLong_of_files hwf hthere hsteps hfiles with ⟨cause, rfl, hlong⟩
    refine ⟨cause, logger.event .info "conversion.start".toList ∅, hlong, rfl, rfl, ?_⟩
    rw [convertAll, hthere]
    dsimp only
    rw [convertFound, hfiles]
  | ok paths =>
    right
    have hblocks := tells_turns output logger tree paths
    refine ⟨paths, ⟨(turns output logger tree paths).map Turn.outcome⟩, _, _, _, rfl,
      (convertAll_of_files hfiles).2, ?_, events_convertAll output logger hthere hfiles, rfl,
      hblocks, rfl, ?_, ?_, ?_, ?_⟩
    · exact sources_outcomes_turns output logger tree paths
    · exact field_event _ _ _ _ _
    · exact field_event _ _ _ _ _
    · rw [← commandCount_of_tells hblocks]
      exact field_event _ _ _ _ _
    · intro arguments environment settings host hsettings hlevel hinput houtput
      rw [hinput] at hfiles
      rw [houtput] at hblocks ⊢
      rw [ending_convert host hsettings hlevel (convertAll_of_files hfiles).2,
        outcomes_turns_logger _ {} logger, ok_iff_of_tells hblocks]

/-- Feature files of all kinds: one with a request, one without, and one that breaks off. -/
def mixedTree : FileTree :=
  { entries := ⟨[(["f".toList], .directory),
      (["f".toList, "a.feature".toList], .file sampleScript),
      (["f".toList, "b.feature".toList], .file []),
      (["f".toList, "c.feature".toList], .file (sampleScript ++ Utf8.encode "* method\n".toList))]⟩ }

theorem files_mixedTree :
    sampleInput.files mixedTree =
      .ok [.ofText "f/a.feature".toList, .ofText "f/b.feature".toList,
        .ofText "f/c.feature".toList] := by
  have hfound : Glob.select mixedTree [.wild (Glob.pieces "*.feature".toList)]
      sampleInput.directory =
        .ok [.ofText "f/a.feature".toList, .ofText "f/b.feature".toList,
          .ofText "f/c.feature".toList] := by
    decide +kernel
  exact files_sampleInput (by decide +kernel) hfound (by decide +kernel) (by decide +kernel)

theorem log_tells_report_mixedTree :
    ∃ report start blocks done,
      (convertAll sampleInput sampleOutput {} mixedTree).result = .ok report ∧
      report.outcomes.map Outcome.ok = [true, true, false] ∧
      (convertAll sampleInput sampleOutput {} mixedTree).events =
        start :: blocks.flatten ++ [done] ∧
      List.Forall₂ Tells blocks report.outcomes ∧
      done.fields.get? "failed".toList = some (.int 1) ∧
      done.fields.get? "commands".toList = some (.int 1) := by
  have hsteps : Glob.stepsOf sampleInput.pattern =
      .ok [.wild (Glob.pieces "*.feature".toList)] := by
    decide +kernel
  have hwf : mixedTree.WellFormed := by decide +kernel
  have hthere : sampleInput.exists mixedTree = .ok true := by decide +kernel
  rcases log_tells_report sampleOutput {} hwf hthere hsteps with
    ⟨fault, start, -, hfiles, -⟩ |
    ⟨paths, report, start, blocks, done, -, hreport, -, hevents, -, hblocks, -, -, hfailed,
      hcommands, -⟩
  · rw [files_mixedTree] at hfiles
    cases hfiles
  · have houtcomes : report.outcomes =
        (turns sampleOutput {} mixedTree [.ofText "f/a.feature".toList,
          .ofText "f/b.feature".toList, .ofText "f/c.feature".toList]).map Turn.outcome := by
      rw [(convertAll_of_files files_mixedTree).2] at hreport
      cases hreport
      rfl
    have hcounts : report.outcomes.map (fun outcome => (outcome.ok, outcome.commandCount)) =
        [(true, 1), (true, 0), (false, 0)] := by
      rw [houtcomes]
      decide +kernel
    refine ⟨report, start, blocks, done, hreport, ?_, hevents, hblocks, ?_, ?_⟩
    · simpa [Function.comp_def] using congrArg (List.map Prod.fst) hcounts
    · have hcount := congrArg (fun counts => (counts.filter fun count => !count.1).length) hcounts
      rw [List.filter_map, List.length_map] at hcount
      rw [hfailed]
      exact congrArg (fun count : Nat => some (Value.int count)) hcount
    · have hsum := congrArg (fun counts => ((counts.filter (·.1)).map Prod.snd).sum) hcounts
      rw [List.filter_map, List.map_map] at hsum
      rw [hcommands]
      exact congrArg (fun count => some (Value.int count)) hsum

/-- A directory in which a directory has the name of a feature file. -/
def nestedTree : FileTree :=
  { entries := ⟨[(["f".toList], .directory), (["f".toList, "a.feature".toList], .directory)]⟩ }

/-- The feature files of the directory {lit}`f`, which is found by a detour that leaves no room
for the name of a file. -/
def detourInput : Input :=
  { directory := ⟨.workingDirectory,
      "f".toList :: (List.replicate 818 ["..".toList, "f".toList]).flatten⟩ }

/-- A directory that is there, and a pattern that is one, are not enough for a report. -/
theorem no_report_detourInput :
    ¬ ∀ (input : Input) (output : Output) (logger : Logger) (tree : FileTree)
        (steps : List Glob.Step),
      tree.WellFormed → input.exists tree = .ok true → Glob.stepsOf input.pattern = .ok steps →
      ∃ report, (convertAll input output logger tree).result = .ok report := by
  intro hall
  have hsteps : Glob.stepsOf detourInput.pattern =
      .ok [.wild (Glob.pieces "*.feature".toList)] := by
    decide +kernel
  have hselect : Glob.select nestedTree [.wild (Glob.pieces "*.feature".toList)]
      detourInput.directory = .ok [detourInput.directory.child "a.feature".toList] := by
    decide +kernel
  have hgather : (Glob.gather (kept nestedTree.isFile)
      [detourInput.directory.child "a.feature".toList]).isOk = false := by
    decide +kernel
  have hthere : detourInput.exists nestedTree = .ok true := by decide +kernel
  rcases hall detourInput sampleOutput {} nestedTree _ (by decide +kernel) hthere hsteps with
    ⟨report, hreport⟩
  rcases convertAll_eq_ok_iff.mp hreport with ⟨paths, hpaths, -⟩
  rcases Input.files_eq_ok.mp hpaths with ⟨hmissing, -⟩ | ⟨-, steps, hsteps', hselected⟩
  · rw [hthere] at hmissing
    cases hmissing
  · rw [hsteps] at hsteps'
    cases hsteps'
    rcases Input.selected_eq_ok.mp hselected with ⟨found, files, hfound, hfiles, -⟩
    rw [hselect] at hfound
    cases hfound
    rw [hfiles] at hgather
    cases hgather

end Conversion
end RequestScript
