import RequestScript.Conversion.Input
import RequestScript.Conversion.Output
import RequestScript.Conversion.Report
import RequestScript.Event

/-!
# Conversion

A conversion reads every feature file of an input, scans it, and writes its
commands to an output.  A file that fails is logged and reported, and the others are
converted all the same.  The result of a conversion is the tree it leaves, the
events it told, and the report.  Events are told on a stream that takes every text.

Main results:

- Definition {lit}`Conversion.convertFile`: the conversion of one file.
- Definition {lit}`Conversion.convertAll`: the conversion of an input.
- Theorem {lit}`Conversion.convertFiles_nil` and theorem
  {lit}`Conversion.convertFiles_cons`: files are converted one after another, each
  on the tree that the last one left.
-/

namespace RequestScript

namespace Conversion

/-- Why a file is not converted. -/
inductive Failure where
  | unread (cause : Input.Fault)
  | malformed (cause : Scan.Failure)
  | unwritten (cause : FileTree.Fault)
deriving DecidableEq, Repr

/-- The wording of a failure. -/
def Failure.message : Failure → Text
  | .unread cause => cause.message
  | .malformed cause => cause.message
  | .unwritten cause => cause.message

/-- The name under which a failure is logged. -/
def Failure.kind : Failure → Text
  | .unread cause => cause.kind
  | .malformed _ => "MalformedStatementError".toList
  | .unwritten cause => cause.kind

/-- The event that tells of an emitted request. -/
def emissionEvent (logger : Logger) (index : Nat) (request : Request) : Event :=
  logger.event .debug "parser.command_emitted".toList
    (.ofList [("method".toList, .text request.method),
      ("target".toList, .text request.target),
      ("index".toList, .int index)])

/-- The events that tell of emitted requests, numbered from an index on. -/
def emissionEventsFrom (logger : Logger) (index : Nat) : List Request → List Event
  | [] => []
  | request :: rest =>
    emissionEvent logger index request :: emissionEventsFrom logger (index + 1) rest

/-- Requests that are emitted later are numbered on. -/
theorem emissionEventsFrom_append (logger : Logger) (index : Nat) (requests later : List Request) :
    emissionEventsFrom logger index (requests ++ later) =
      emissionEventsFrom logger index requests ++
        emissionEventsFrom logger (index + requests.length) later := by
  induction requests generalizing index with
  | nil => rfl
  | cons request requests ih =>
    rw [List.cons_append, emissionEventsFrom, emissionEventsFrom, List.cons_append, ih,
      List.length_cons, Nat.add_right_comm, Nat.add_assoc]

/-- The events that tell of the requests of a scan. -/
def scanEvents (logger : Logger) (content : Text) : List Event :=
  emissionEventsFrom logger 0 (Script.scan content).requests

/-- What an operation on files leaves and tells. -/
structure Effect (α : Type) where
  tree : FileTree
  events : List Event
  result : α

/-- Read, scan and write one file: the tree after it, the events of the scan, and
where the commands went and how many they are. -/
def process (output : Output) (logger : Logger) (tree : FileTree) (path : Path) :
    Effect (Except Failure (Path × Nat)) :=
  match Input.read tree path with
  | .error cause => ⟨tree, [], .error (.unread cause)⟩
  | .ok content =>
    let events := scanEvents logger content
    match Script.commands content with
    | .error cause => ⟨tree, events, .error (.malformed cause)⟩
    | .ok commands =>
      match output.write tree path commands with
      | (tree, .error cause) => ⟨tree, events, .error (.unwritten cause)⟩
      | (tree, .ok target) => ⟨tree, events, .ok (target, commands.length)⟩

/-- Convert one file. -/
def convertFile (output : Output) (logger : Logger) (tree : FileTree) (path : Path) :
    Effect Outcome :=
  let logger := logger.bind (.ofList [("file".toList, .text path.text)])
  let started := logger.event .info "conversion.file_start".toList ∅
  let ⟨tree, events, result⟩ := process output logger tree path
  match result with
  | .error failure =>
    let failed := logger.event .error "conversion.file_failed".toList
      (.ofList [("error".toList, .text failure.message),
        ("error_type".toList, .text failure.kind)])
    ⟨tree, started :: events ++ [failed],
      { source := path, ok := false, errorMessage := some failure.message }⟩
  | .ok (target, count) =>
    let warnings :=
      if count = 0 then [logger.event .warning "conversion.no_commands".toList ∅] else []
    let written := logger.event .info "conversion.file_written".toList
      (.ofList [("output".toList, .text target.text), ("commands".toList, .int count)])
    ⟨tree, started :: events ++ warnings ++ [written],
      { source := path, ok := true, output := some target, commandCount := count }⟩

/-- Convert files one after another. -/
def convertFiles (output : Output) (logger : Logger) (tree : FileTree) :
    List Path → Effect (List Outcome)
  | [] => ⟨tree, [], []⟩
  | path :: rest =>
    let first := convertFile output logger tree path
    let later := convertFiles output logger first.tree rest
    ⟨later.tree, first.events ++ later.events, first.result :: later.result⟩

@[simp]
theorem convertFiles_nil (output : Output) (logger : Logger) (tree : FileTree) :
    convertFiles output logger tree [] = ⟨tree, [], []⟩ := rfl

theorem convertFiles_cons (output : Output) (logger : Logger) (tree : FileTree) (path : Path)
    (rest : List Path) :
    convertFiles output logger tree (path :: rest) =
      let first := convertFile output logger tree path
      let later := convertFiles output logger first.tree rest
      ⟨later.tree, first.events ++ later.events, first.result :: later.result⟩ := rfl

/-- Convert every feature file of an input that is there, after the event of its start. -/
def convertFound (input : Input) (output : Output) (logger : Logger) (tree : FileTree)
    (started : Event) : Effect (Except Input.SearchFault Report) :=
  match input.files tree with
  | .error fault => ⟨tree, [started], .error fault⟩
  | .ok paths =>
    let ⟨tree, events, outcomes⟩ := convertFiles output logger tree paths
    let report : Report := ⟨outcomes⟩
    let done := logger.event .info "conversion.done".toList
      (.ofList [("files".toList, .int outcomes.length),
        ("failed".toList, .int report.failed.length),
        ("commands".toList, .int report.commandCount)])
    ⟨tree, started :: events ++ [done], .ok report⟩

/-- Convert every feature file of an input.  Only files that can not be looked for end
a conversion without a report. -/
def convertAll (input : Input) (output : Output) (logger : Logger) (tree : FileTree) :
    Effect (Except Input.SearchFault Report) :=
  let started := logger.event .info "conversion.start".toList ∅
  match input.exists tree with
  | .error fault => ⟨tree, [started], .error (.path fault)⟩
  | .ok true => convertFound input output logger tree started
  | .ok false =>
    let missing := logger.event .error "conversion.missing_dir".toList
      (.ofList [("source".toList, .text input.directory.text)])
    ⟨tree, [started, missing], .ok {}⟩

end Conversion

end RequestScript
