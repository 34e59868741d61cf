import RequestScript.Proofs.Scan.Extension
import RequestScript.Proofs.Scan.Failures
import RequestScript.Proofs.Scan.Issues

/-!
# Lines that state nothing

A line that states nothing, and does not go on with a scenario, leaves a scan in the state in
which it met it.  The scan still looks for a complete request there, but between two lines no
request is complete.  So such a line can be inserted wherever a scan stands between two lines:
the script issues the same requests and fails in the same way, one line further down.

Main results:

- Definition {lit}`Inert`: a line that states nothing in a state.
- Theorem {lit}`Inert.visitLine_eq`: the step at such a line.
- Theorem {lit}`exists_steps_of_inert`: the scan of a script with such a line.
- Theorem {lit}`requests_insertLine`: what a script with such a line issues and where it fails.
-/

namespace RequestScript

open Text

/-! ## Scripts with one more line -/

namespace Script

/-- A script with one more line at a place. -/
def insertLine (content : Text) (place : Nat) (raw : Text) : Text :=
  unlines ((Text.lines content).take place ++ raw :: (Text.lines content).drop place)

theorem textLines_insertLine (content : Text) (place : Nat) {raw : Text} (h : '\n' ∉ raw) :
    Text.lines (insertLine content place raw) =
      (Text.lines content).take place ++ raw :: (Text.lines content).drop place := by
  apply List.splitOn_intercalate '\n'
  · intro text htext
    rcases List.mem_append.mp htext with hfront | hback
    · exact newline_not_mem_of_mem_textLines (List.mem_of_mem_take hfront)
    · rcases List.mem_cons.mp hback with rfl | hback
      · exact h
      · exact newline_not_mem_of_mem_textLines (List.mem_of_mem_drop hback)
  · simp

/-- The lines of a script with one more line: those behind it stand one place further down. -/
theorem lines_insertLine (content : Text) (place : Nat) {raw : Text} (h : '\n' ∉ raw) :
    lines (insertLine content place raw) =
      (lines content).take place ++
        ⟨((lines content).take place).length, trim raw⟩ ::
          ((lines content).drop place).map (·.shift 1) := by
  have hcount : ((lines content).take place).length = ((Text.lines content).take place).length := by
    rw [lines, take_linesFrom, length_linesFrom]
  have hback : ((lines content).drop place).map (·.shift 1) =
      linesFrom (((Text.lines content).take place).length + 1)
        ((Text.lines content).drop place) := by
    rw [lines, drop_linesFrom, linesFrom_shift, Nat.zero_add]
    by_cases hplace : place ≤ (Text.lines content).length
    · rw [List.length_take_of_le hplace]
    · -- there are no lines behind the last one
      rw [List.drop_eq_nil_of_le (Nat.le_of_not_le hplace)]
      rfl
  rw [hback, hcount, lines, textLines_insertLine content place h, linesFrom_append, Nat.zero_add,
    linesFrom, lines, take_linesFrom]

end Script

namespace Scan

/-! ## The step at a line that states nothing -/

/-- A line states nothing in a state, and it does not go on with a scenario. -/
structure Inert (state : State) (line : Text) : Prop where
  silent : Statement.ofText (state.bindings.substitute line) line = .ok none
  stays : firstWord (state.bindings.substitute line) ≠ Leader.also.spelling

instance (state : State) (line : Text) : Decidable (Inert state line) :=
  decidable_of_iff
    (Statement.ofText (state.bindings.substitute line) line = .ok none ∧
      firstWord (state.bindings.substitute line) ≠ Leader.also.spelling)
    ⟨fun h => ⟨h.1, h.2⟩, fun h => ⟨h.silent, h.stays⟩⟩

/-- A line that states nothing leaves the state as it is and uses no other line. -/
theorem Inert.visitLine_eq {state : State} {line : Line} (h : Inert state line.text)
    (hstate : state.draft.isComplete = false) (rest : List Line) :
    visitLine state line rest =
      .ok ⟨⟨state, line, state.bindings.substitute line.text, .ok none, none⟩, state, rest⟩ := by
  have hbinds : Binds state.bindings rest none state.bindings rest := .keep (by simp)
  rw [visitLine_of_binds h.silent hbinds, drafted_none, beforeEffect_of_firstWord_ne _ h.stays,
    emit_of_not_isComplete hstate]

/-! ## Runs -/

/-- Visits lead from a state and its lines to one state and one list of lines. -/
theorem Steps.unique {state first second : State} {lines left rest : List Line}
    {visits : List Visit} (h : Steps state lines visits first left)
    (hagain : Steps state lines visits second rest) : first = second ∧ left = rest := by
  induction h with
  | refl =>
    cases hagain
    exact ⟨rfl, rfl⟩
  | @cons _ _ line others _ visits passage hvisit _ ih =>
    generalize hvisits : passage.visit :: visits = found at hagain
    cases hagain with
    | refl => cases hvisits
    | cons hother hlater =>
      rw [hvisit, Except.ok.injEq] at hother
      subst hother
      rw [(List.cons.inj hvisits).2] at ih
      exact ih hlater

/-- A scan that has got through all lines goes on with a line that states nothing, in the same
state, or that line still belongs to the last definition. -/
theorem Steps.append_line {state after : State} {lines : List Line} {visits : List Visit}
    (h : Steps state lines visits after []) (line : Line) :
    (∃ last, Steps state (lines ++ [line]) visits last []) ∨
      Steps state (lines ++ [line]) visits after [line] := by
  have hthrough : (run state lines).failure = none := by
    rw [h.run_eq, run_nil]
  have hvisits : (run state lines).visits = visits := by
    rw [h.run_eq, run_nil, List.append_nil]
  rcases steps_append hthrough [line] with ⟨last, left, hsteps, hleft⟩
  rw [hvisits] at hsteps
  rcases List.suffix_cons_iff.mp hleft with rfl | hnone
  · -- the line is left, so the last definition had its value without it
    right
    have hback := hsteps.replace (List.cons_ne_nil line []) []
    rw [List.append_nil] at hback
    rw [(h.unique hback).1]
    exact hsteps
  · left
    rw [List.suffix_nil.mp hnone] at hsteps
    exact ⟨last, hsteps⟩

/-- Where a scan stands between two lines, it passes over a line that states nothing.  Behind
the last line, such a line may instead end the block of the last definition. -/
theorem exists_steps_of_inert {state : State} {front left : List Line} {visits : List Visit}
    (h : Steps {} (front ++ left) visits state left) (line : Line)
    (hinert : Inert state line.text) (hstate : state.draft.isComplete = false)
    (moved : List Line) (hmoved : left = [] → moved = []) :
    ∃ more after, Steps {} (front ++ line :: moved) (visits ++ more) after moved ∧
      more.filterMap Visit.emitted = [] ∧ (left ≠ [] → after = state) := by
  have hpass : Steps state (line :: moved)
      [⟨state, line, state.bindings.substitute line.text, .ok none, none⟩] state moved :=
    .single (hinert.visitLine_eq hstate moved)
  by_cases hnone : left = []
  · -- only here the line may be taken into a block: behind the last line, one can still be open
    rw [hmoved hnone] at hpass ⊢
    rw [hnone, List.append_nil] at h
    rcases h.append_line line with ⟨last, hlast⟩ | hthere
    · exact ⟨[], last, by rwa [List.append_nil], rfl, fun hne => absurd hnone hne⟩
    · exact ⟨_, state, hthere.append hpass, rfl, fun _ => rfl⟩
  · exact ⟨_, state, (h.replace hnone (line :: moved)).append hpass, rfl, fun _ => rfl⟩

/-- What a scan does with the lines behind the new one.  The state matters only if there are
any. -/
theorem run_moved {state after : State} {left : List Line} (h : left ≠ [] → after = state) :
    (run after (left.map (·.shift 1))).requests = (run state left).requests ∧
      (run after (left.map (·.shift 1))).failure = (run state left).failure.map (·.shift 1) := by
  by_cases hnone : left = []
  · rw [hnone, List.map_nil, run_nil, run_nil]
    exact ⟨rfl, rfl⟩
  · rw [h hnone, run_shift]
    exact ⟨Run.shift_requests (run state left) 1, rfl⟩

/-- A failure, told of a script with one more line at a place. -/
def Failure.below (failure : Failure) (place : Nat) : Failure :=
  if place < failure.lineNumber then failure.shift 1 else failure

/-- A scan that has got as far as a place fails behind it. -/
theorem Reaches.lt_lineNumber {content : Text} {place : Nat} {state : State}
    (h : Reaches content state ((Script.lines content).drop place)) {failure : Failure}
    (hfails : (Script.scan content).failure = some failure) : place < failure.lineNumber := by
  rcases h with ⟨visits, hsteps⟩
  rw [Script.scan, hsteps.run_eq] at hfails
  rcases exists_line_of_failure hfails with ⟨line, hline, hnumber, -⟩
  rw [Script.lines, Script.drop_linesFrom, Nat.zero_add] at hline
  have hplace := Script.le_index_of_mem_linesFrom hline
  rw [hnumber, Line.number]
  omega

end Scan

open Scan

/-- Where a scan stands between two lines, a line that states nothing can be inserted: the
script issues the same requests, and if it fails, then for the same reason and on the same line,
which stands behind the new one and so one place further down. -/
theorem requests_insertLine {content raw : Text} {place : Nat} {state : State}
    (hreach : Reaches content state ((Script.lines content).drop place)) (hraw : '\n' ∉ raw)
    (hinert : Inert state (trim raw)) :
    (Script.scan (Script.insertLine content place raw)).requests =
        (Script.scan content).requests ∧
      Script.requests (Script.insertLine content place raw) =
        (Script.requests content).mapError (·.below place) ∧
      ∀ failure, Script.requests content = .error failure → place < failure.lineNumber := by
  have hfails : ∀ failure, (Script.scan content).failure = some failure →
      place < failure.lineNumber := fun _ => hreach.lt_lineNumber
  have hcomplete := hreach.isComplete
  rcases hreach with ⟨visits, hsteps⟩
  have hfront : Steps {} ((Script.lines content).take place ++ (Script.lines content).drop place)
      visits state ((Script.lines content).drop place) := by
    rw [List.take_append_drop]
    exact hsteps
  rcases exists_steps_of_inert hfront ⟨((Script.lines content).take place).length, trim raw⟩ hinert
    hcomplete (((Script.lines content).drop place).map (·.shift 1)) (fun hnone => by
      rw [hnone, List.map_nil]) with ⟨more, after, hlonger, hsilent, hsame⟩
  rcases run_moved hsame with ⟨hrequests, hfailure⟩
  have hhere := hsteps.run_eq
  have hthere := hlonger.run_eq
  rw [← Script.lines_insertLine content place hraw] at hthere
  have hissued : (Script.scan (Script.insertLine content place raw)).requests =
      (Script.scan content).requests := by
    rw [Run.requests] at hrequests
    rw [Script.scan, Script.scan, hhere, hthere, Run.requests, Run.requests, List.filterMap_append,
      List.filterMap_append, List.filterMap_append, hsilent, hrequests, List.append_nil, Run.requests]
  have hended : (Script.scan (Script.insertLine content place raw)).failure =
      (Script.scan content).failure.map (·.shift 1) := by
    rw [Script.scan, Script.scan, hhere, hthere, hfailure]
  refine ⟨hissued, ?_, fun failure herror => hfails failure (Script.requests_eq_error.mp herror)⟩
  cases hfailed : (Script.scan content).failure with
  | none =>
    rw [hfailed, Option.map_none] at hended
    rw [Script.requests_eq_ok.mpr ⟨hfailed, rfl⟩, Script.requests_eq_ok.mpr ⟨hended, hissued⟩]
    rfl
  | some failure =>
    rw [hfailed, Option.map_some] at hended
    rw [Script.requests_eq_error.mpr hfailed, Script.requests_eq_error.mpr hended, Except.mapError,
      Failure.below, if_pos (hfails failure hfailed)]

/-- A script with a block, in which a variable gets a value that states nothing. -/
def commented : Text :=
  "* url 'u'\n* def c = \"\"\"\n# x\n\"\"\"\n* method get\n* header".toList

theorem requests_insertLine_commented :
    (Script.scan commented).requests.map Request.method = ["GET".toList] ∧
      Script.requests commented = .error ⟨6, "* header".toList, .missingAssignment⟩ ∧
      (Script.scan (Script.insertLine commented 4 "  # c  ".toList)).requests =
        (Script.scan commented).requests ∧
      Script.requests (Script.insertLine commented 4 "  # c  ".toList) =
        .error ⟨7, "* header".toList, .missingAssignment⟩ := by
  have hfails : Script.requests commented = .error ⟨6, "* header".toList, .missingAssignment⟩ := by
    decide +kernel
  obtain ⟨visit, hvisit, hindex, hinert⟩ :
      ∃ visit ∈ (Script.scan commented).visits, visit.line.index = 4 ∧
        Inert visit.before (trim "  # c  ".toList) := by
    decide +kernel
  rcases exists_reaches_of_mem_visits hvisit with ⟨state, line, rest, hreach, rfl⟩
  rw [visited_before] at hinert
  rw [visited_line] at hindex
  rw [hreach.lines_eq, hindex] at hreach
  rcases requests_insertLine hreach (by decide) hinert with ⟨hissued, hended, -⟩
  rw [hfails] at hended
  exact ⟨by decide +kernel, hfails, hissued, hended⟩

end RequestScript
