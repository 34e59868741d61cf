import RequestScript.Proofs.Records
import RequestScript.Proofs.Scan.Failures

/-!
# What a scan prints

A scan tells of each request as soon as it is issued, and the place that it tells is read off the
requests issued so far.  So there is one line for each request, in the order in which they are
issued, also when the scan breaks off: then the lines tell of the requests of the lines before the
one that fails.

Main results:

- Definition {lit}`transcribe`: a scan that prints as it goes.
- Theorem {lit}`transcribe_eq`: it issues what the recorded scan issues, and prints the records of
  these requests.
- Definition {lit}`Shows`: a printed line tells of a request and of its place.
- Theorem {lit}`mirrors_transcribe`: what is printed mirrors the requests of a script.
-/

namespace RequestScript

open Text

namespace Scan

/-! ## Printing while scanning -/

/-- The requests that have been issued so far, and what has been printed. -/
structure Transcript where
  issued : List Request := []
  printed : Text := []

namespace Transcript

/-- A request is added to those that have been issued; then it is told, with the last of their
places. -/
def issue (logger : Logger) (transcript : Transcript) (request : Request) : Transcript :=
  let issued := transcript.issued ++ [request]
  let event := Conversion.emissionEvent logger (issued.length - 1) request
  ⟨issued, transcript.printed ++ (event.record ++ ['\n'])⟩

/-- A visit issues a request or none. -/
def follow (logger : Logger) (transcript : Transcript) : Option Request → Transcript
  | some request => transcript.issue logger request
  | none => transcript

/-- The transcript after more requests. -/
def extend (logger : Logger) (transcript : Transcript) (requests : List Request) : Transcript :=
  ⟨transcript.issued ++ requests, transcript.printed ++
    Event.records (Conversion.emissionEventsFrom logger transcript.issued.length requests)⟩

@[simp]
theorem extend_nil (logger : Logger) (transcript : Transcript) :
    transcript.extend logger [] = transcript := by
  simp [extend, Conversion.emissionEventsFrom, Event.records]

/-- A transcript is extended in two parts. -/
theorem extend_append (logger : Logger) (transcript : Transcript) (requests later : List Request) :
    transcript.extend logger (requests ++ later) =
      (transcript.extend logger requests).extend logger later := by
  simp only [extend, Conversion.emissionEventsFrom_append, Event.records_append,
    List.append_assoc, List.length_append]

/-- One visit extends the transcript by what it emits. -/
theorem follow_eq (logger : Logger) (transcript : Transcript) (emitted : Option Request) :
    transcript.follow logger emitted = transcript.extend logger emitted.toList := by
  cases emitted with
  | none => exact (extend_nil logger transcript).symm
  | some request =>
    simp [follow, issue, extend, Conversion.emissionEventsFrom, Event.records]

end Transcript

/-- Scan lines from a state on, and print.  The line that fails issues nothing. -/
def transcribe (logger : Logger) (transcript : Transcript) (state : State) (lines : List Line) :
    Transcript × Option Failure :=
  match lines with
  | [] => (transcript, none)
  | line :: rest =>
    match h : visitLine state line rest with
    | .error (_, reason) => (transcript, some ⟨line.number, line.text, reason⟩)
    | .ok passage =>
      have := length_visitLine_le h
      transcribe logger (transcript.follow logger passage.visit.emitted) passage.after passage.rest
termination_by lines.length
decreasing_by simp only [List.length_cons]; omega

section Transcribe

variable {logger : Logger} {transcript : Transcript} {state : State} {line : Line}
  {rest : List Line}

/-- Without lines nothing is transcribed. -/
theorem transcribe_nil (logger : Logger) (transcript : Transcript) (state : State) :
    transcribe logger transcript state [] = (transcript, none) := by
  rw [transcribe]

/-- A line that is read is transcribed, and the rest behind it. -/
theorem transcribe_cons_of_ok {passage : Passage} (h : visitLine state line rest = .ok passage) :
    transcribe logger transcript state (line :: rest) =
      transcribe logger (transcript.follow logger passage.visit.emitted) passage.after
        passage.rest := by
  rw [transcribe]
  split
  · simp_all
  · simp_all

/-- A line that can not be read ends the transcript. -/
theorem transcribe_cons_of_error {visit : Visit} {reason : Malformation}
    (h : visitLine state line rest = .error (visit, reason)) :
    transcribe logger transcript state (line :: rest) =
      (transcript, some ⟨line.number, line.text, reason⟩) := by
  rw [transcribe]
  split
  · simp_all
  · simp_all

end Transcribe

/-- The first visit issues its request first. -/
theorem Run.requests_cons (visit : Visit) (run : Run) :
    Run.requests ⟨visit :: run.visits, run.failure⟩ = visit.emitted.toList ++ run.requests := by
  cases hemitted : visit.emitted <;> simp [Run.requests, hemitted]

/-- A scan that prints issues what the recorded scan issues, numbered on from what has been issued
before, and it fails in the same way. -/
theorem transcribe_eq (logger : Logger) (transcript : Transcript) (state : State)
    (lines : List Line) :
    transcribe logger transcript state lines =
      (transcript.extend logger (run state lines).requests, (run state lines).failure) := by
  induction state, lines using run.induct generalizing transcript with
  | case1 state =>
    rw [transcribe_nil, run_nil]
    exact Prod.ext (Transcript.extend_nil logger transcript).symm rfl
  | case2 state line rest visit reason hvisit =>
    have hsilent : visit.emitted = none := (visitLine_error hvisit).2.2.1
    rw [transcribe_cons_of_error hvisit, run_cons_of_error hvisit]
    simp [Run.requests, hsilent]
  | case3 state line rest passage hvisit _ ih =>
    rw [transcribe_cons_of_ok hvisit, ih, run_cons_of_ok hvisit, Run.requests_cons,
      Transcript.follow_eq, Transcript.extend_append]

end Scan

open Scan

/-- Read a script and print, as a scan does that has issued nothing yet. -/
def Script.transcribe (logger : Logger) (content : Text) : Transcript × Option Failure :=
  Scan.transcribe logger {} {} (lines content)

/-- What a script issues and prints, and how it fails, is what its recorded scan tells. -/
theorem Script.transcribe_eq (logger : Logger) (content : Text) :
    transcribe logger content =
      (⟨(scan content).requests, Event.records (Conversion.scanEvents logger content)⟩,
        (scan content).failure) :=
  Scan.transcribe_eq logger {} {} (lines content)

/-! ## Printed lines -/

/-- A printed line tells of a request and of its place.  It is one line whatever the request is,
and it has the form of a record, in which no field stands twice. -/
structure Shows (line : Text) (place : Nat) (request : Request) : Prop where
  oneLine : '\n' ∉ line
  clean : line.Clean
  record : ∃ fields : Fields, fields.keys.Nodup ∧
    line = "parser.command_emitted ".toList ++
      Value.json (.map (fields.entries.map fun entry => (.text entry.1, entry.2))) ∧
    fields.get? "index".toList = some (.int place) ∧
    fields.get? "method".toList = some (.text request.method) ∧
    fields.get? "target".toList = some (.text request.target)

/-- The record of an issued request shows it, whatever fields the logger adds. -/
theorem shows_record {logger : Logger} (h : logger.bound.keys.Nodup) (place : Nat)
    (request : Request) :
    Shows (Conversion.emissionEvent logger place request).record place request := by
  have hclean : (Conversion.emissionEvent logger place request).record.Clean :=
    Event.clean_record (by decide : Clean "parser.command_emitted".toList)
  have htold : ∀ key value,
      (OrderedMap.ofList [("method".toList, Value.text request.method),
        ("target".toList, .text request.target), ("index".toList, .int place)]).get? key =
          some value →
      (Conversion.emissionEvent logger place request).recordFields.get? key = some value := by
    intro key value hvalue
    apply Event.get?_recordFields
    rw [Conversion.emissionEvent, Conversion.field_event, hvalue, Option.some_or]
  refine ⟨hclean.newline_not_mem, hclean, _,
    Event.nodup_keys_recordFields (OrderedMap.nodup_keys_merge h _), rfl, ?_, ?_, ?_⟩
  · exact htold _ _ rfl
  · exact htold _ _ rfl
  · exact htold _ _ rfl

/-- What is printed mirrors the requests that are issued: each of them has its line.  When the
script is read to its end, these are its requests; when it fails, they are the requests of the lines
before the one that fails. -/
structure Mirrors (content : Text) (transcript : Transcript) (ended : Option Failure) : Prop where
  lines : ∃ told : List Text, transcript.printed = told.flatMap (· ++ ['\n']) ∧
    told.length = transcript.issued.length ∧
    ∀ (place : Nat) line request, told[place]? = some line →
      transcript.issued[place]? = some request → Shows line place request
  succeeds : ∀ requests, Script.requests content = .ok requests →
    ended = none ∧ transcript.issued = requests
  fails : ∀ failure, Script.requests content = .error failure → ended = some failure ∧
    Script.requests (unlines ((Text.lines content).take (failure.lineNumber - 1))) =
      .ok transcript.issued ∧
    ∃ earlier last, (Script.scan content).visits = earlier ++ [last] ∧
      earlier.filterMap Visit.emitted = transcript.issued ∧
      last.line.number = failure.lineNumber ∧ last.emitted = none

/-- The records of requests are lines that show them. -/
theorem exists_lines_records {logger : Logger} (h : logger.bound.keys.Nodup)
    (requests : List Request) :
    ∃ told : List Text,
      Event.records (Conversion.emissionEventsFrom logger 0 requests) =
        told.flatMap (· ++ ['\n']) ∧
      told.length = requests.length ∧
      ∀ (place : Nat) line request, told[place]? = some line →
        requests[place]? = some request → Shows line place request := by
  refine ⟨(Conversion.emissionEventsFrom logger 0 requests).map Event.record, ?_, ?_, ?_⟩
  · rw [Event.records, List.flatMap_map]
  · rw [List.length_map, Conversion.length_emissionEventsFrom]
  · intro place line request hline hrequest
    rw [List.getElem?_map, Conversion.getElem?_emissionEventsFrom, hrequest, Nat.zero_add,
      Option.map_some, Option.map_some] at hline
    obtain rfl := Option.some.inj hline
    exact shows_record h place request

/-- A scan that fails has issued what the lines before the failure issue on their own, and the visit
of the line that fails adds nothing. -/
theorem issued_of_failure {content : Text} {failure : Failure}
    (h : (Script.scan content).failure = some failure) :
    Script.requests (unlines ((Text.lines content).take (failure.lineNumber - 1))) =
        .ok (Script.scan content).requests ∧
      ∃ earlier last, (Script.scan content).visits = earlier ++ [last] ∧
        earlier.filterMap Visit.emitted = (Script.scan content).requests ∧
        last.line.number = failure.lineNumber ∧ last.emitted = none := by
  rcases exists_steps_of_failure h with
    ⟨visits, here, line, rest, visit, hsteps, hfails, hnumber, -⟩
  rcases visitLine_error hfails with ⟨-, hline, hsilent, -⟩
  rcases hsteps.suffix with ⟨front, hfront⟩
  have hvisits : (Script.scan content).visits = visits ++ [visit] := by
    rw [Script.scan, hsteps.run_eq, run_cons_of_error hfails]
  have hissued : visits.filterMap Visit.emitted = (Script.scan content).requests := by
    rw [Run.requests, hvisits, List.filterMap_append]
    simp [hsilent]
  have hplace : failure.lineNumber - 1 = front.length := by
    rcases line_of_lines_eq hfront.symm with ⟨raw, -, hline⟩
    rw [hnumber, hline]
    rfl
  rw [← hfront] at hsteps
  refine ⟨?_, visits, visit, hvisits, hissued, by rw [hline, hnumber], hsilent⟩
  rw [hplace, ← hissued]
  exact requests_unlines_front hfront.symm hsteps

/-- What a script prints mirrors its requests, for every logger with fields of its own, and it is
what the recorded scan tells. -/
theorem mirrors_transcribe (bound : List (Text × Value)) (content : Text) :
    let logger : Logger := ⟨.ofList bound⟩
    let transcribed := Script.transcribe logger content
    Mirrors content transcribed.1 transcribed.2 ∧
      transcribed.1.printed = Event.records (Conversion.scanEvents logger content) := by
  dsimp only
  rw [Script.transcribe_eq]
  refine ⟨⟨?_, fun requests hrequests => ?_, fun failure hfailure => ?_⟩, rfl⟩
  · exact exists_lines_records (OrderedMap.nodup_keys_ofList bound) (Script.scan content).requests
  · exact Script.requests_eq_ok.mp hrequests
  · have hended := Script.requests_eq_error.mp hfailure
    exact ⟨hended, issued_of_failure hended⟩

/-- A script with an address of two lines that fails after a request. -/
def scatteredAddress : Text :=
  "* def b = \"\"\"\nx\ny\n\"\"\"\n* url 'b'\n* method get\n* method".toList

example : (Script.transcribe {} scatteredAddress).1.printed =
    ("parser.command_emitted \x7b\"method\": \"GET\", \"target\": \"x\\ny\", \"index\": 0, " ++
      "\"type\": \"parser.command_emitted\", \"level\": \"debug\"\x7d\n").toList := by
  decide +kernel

end RequestScript
