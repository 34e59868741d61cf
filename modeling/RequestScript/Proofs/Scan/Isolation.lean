import RequestScript.Proofs.Scan.Places
import RequestScript.Proofs.Scan.Resets

/-!
# Scenarios are isolated

A scenario line forgets everything but the base address and the variables.  What a scan
does from there on can therefore be told from these two and the lines that are left: two
scripts that agree on them at a scenario line go on alike, whatever they have said, issued
or left unfinished before, and wherever the line stands.

Two facts make this up.  The step at a scenario line takes states that agree on base
address and variables to the same state, and a scan does not see the places of its lines.

Main results:

- Theorem {lit}`visitLine_boundary`: what a scenario line leaves of the state.
- Theorem {lit}`run_boundary_congr`: states that agree go on alike from a scenario line.
- Theorem {lit}`isolated_at_boundary`: scripts that agree go on alike from a scenario line.
-/

namespace RequestScript
namespace Scan

/-! ## The step at a scenario line -/

/-- What a scenario line does not forget. -/
structure State.Agrees (state other : State) : Prop where
  bindings : state.bindings = other.bindings
  baseUrl : state.draft.baseUrl = other.draft.baseUrl

/-- A scenario line keeps the base address and the variables and issues nothing. -/
theorem visitLine_boundary {state : State} {line : Line}
    (h : Statement.isBoundary (state.bindings.substitute line.text) = true) (rest : List Line) :
    visitLine state line rest =
      .ok ⟨⟨state, line, state.bindings.substitute line.text,
          .ok (some (.boundary (state.bindings.substitute line.text))), none⟩,
        ⟨state.bindings, state.draft.startScenario⟩, rest⟩ := by
  have hread := Statement.ofText_boundary h line.text
  have hbinds : Binds state.bindings rest
      (some (.boundary (state.bindings.substitute line.text))) state.bindings rest :=
    .keep (by simp)
  rw [visitLine_of_binds hread hbinds, drafted_boundary,
    emit_of_not_isComplete (Draft.isComplete_startScenario state.draft)]

/-- A visit that starts a scenario has read a scenario line. -/
theorem isBoundary_of_startsScenario {state : State} {line : Line} {rest : List Line}
    (h : (visited state line rest).startsScenario) :
    Statement.isBoundary (state.bindings.substitute line.text) = true := by
  rcases h with ⟨mark, hmark⟩
  exact Statement.isBoundary_of_ofText (reads_of_statement? hmark)

/-- States that agree go on alike from a scenario line. -/
theorem run_boundary_congr {state other : State} (hagrees : state.Agrees other) {line : Line}
    (hboundary : Statement.isBoundary (state.bindings.substitute line.text) = true)
    (rest : List Line) :
    (run state (line :: rest)).requests = (run other (line :: rest)).requests ∧
      (run state (line :: rest)).failure = (run other (line :: rest)).failure := by
  have hother := hboundary
  rw [hagrees.bindings] at hother
  have hforgets : state.draft.startScenario = other.draft.startScenario := by
    rw [Draft.startScenario, Draft.startScenario, hagrees.baseUrl]
  rw [run_cons_of_ok (visitLine_boundary hboundary rest),
    run_cons_of_ok (visitLine_boundary hother rest), hagrees.bindings, hforgets]
  exact ⟨rfl, rfl⟩

/-! ## Ends of two scans -/

/-- Two scans end alike when they are compared from two places: both get through, or both
fail at the same distance from their places, on the same line and for the same reason. -/
def EndAlike (first second : Run) (here there : Nat) : Prop :=
  Option.Rel (fun failure other => failure.line = other.line ∧ failure.reason = other.reason ∧
    failure.lineNumber + there = other.lineNumber + here) first.failure second.failure

/-- A scan ends alike at two places where its lines may stand. -/
theorem endAlike_shift (run : Run) {first second : Run} {here there : Nat}
    (hfirst : first.failure = (run.shift here).failure)
    (hsecond : second.failure = (run.shift there).failure) :
    EndAlike first second here there := by
  rw [EndAlike, hfirst, hsecond]
  rcases run with ⟨visits, failure⟩
  cases failure with
  | none => exact .none
  | some failure => exact .some ⟨rfl, rfl, by simp [Failure.shift, Nat.add_right_comm]⟩

end Scan

open Scan

/-- From a scenario line on, a script is told by its base address, its variables and its
remaining lines.  Another script that has reached a line with the same three issues the
same requests from there on and ends alike. -/
theorem isolated_at_boundary (first second : Text) {here there : Nat} {visit other : Visit}
    (hvisit : (Script.scan first).visits[here]? = some visit)
    (hother : (Script.scan second).visits[there]? = some other)
    (hstarts : visit.startsScenario) (hagrees : visit.before.Agrees other.before)
    (hlines : Script.textsFrom first visit.line.index =
      Script.textsFrom second other.line.index) :
    ((Script.scan first).visits.drop here).filterMap Visit.emitted =
        ((Script.scan second).visits.drop there).filterMap Visit.emitted ∧
      EndAlike (Script.scan first) (Script.scan second) visit.line.index other.line.index := by
  rcases exists_steps_of_getElem? hvisit with ⟨state, line, rest, hsteps, rfl, hvisits, hfailure⟩
  rcases exists_steps_of_getElem? hother with
    ⟨state', line', rest', hsteps', rfl, hvisits', hfailure'⟩
  rw [visited_before, visited_before] at hagrees
  rw [visited_line, visited_line] at hlines ⊢
  -- both scans go on with the same lines, which stand at different places
  have hleft := Reaches.lines_eq_shift ⟨_, hsteps⟩
  have hleft' := Reaches.lines_eq_shift ⟨_, hsteps'⟩
  rw [← hlines] at hleft'
  cases htexts : Script.linesFrom 0 (Script.textsFrom first line.index) with
  | nil => simp [htexts] at hleft
  | cons start later =>
    rw [htexts] at hleft hleft'
    have htext : start.text = line.text := by
      rw [List.map_cons, List.cons.injEq] at hleft
      rw [hleft.1, Line.shift_text]
    have hboundary := isBoundary_of_startsScenario hstarts
    rw [← htext] at hboundary
    rcases run_boundary_congr hagrees hboundary later with ⟨hrequests, hends⟩
    rw [hleft, run_shift] at hvisits hfailure
    rw [hleft', run_shift] at hvisits' hfailure'
    constructor
    · have hsame := (Run.shift_requests (run state (start :: later)) line.index).trans
        (hrequests.trans (Run.shift_requests (run state' (start :: later)) line'.index).symm)
      rw [Script.scan, Script.scan, hvisits, hvisits']
      exact hsame
    · apply endAlike_shift (run state (start :: later)) hfailure
      rw [Script.scan, hfailure', Run.shift, Run.shift, hends]

/-- A script that leaves a header and a path unfinished before a scenario. -/
def unfinished : Text :=
  "* url 'u'\n* header A = 1\n* path '/p'\n@t\n* method get\n* def".toList

/-- A script that has issued a request before the same scenario. -/
def finished : Text :=
  "* url 'u'\n* method put\n@t\n* method get\n* def".toList

theorem isolated_at_boundary_unfinished :
    (((Script.scan unfinished).visits.drop 3).filterMap Visit.emitted).map Request.method =
        ["GET".toList] ∧
      ((Script.scan unfinished).visits.drop 3).filterMap Visit.emitted =
        ((Script.scan finished).visits.drop 2).filterMap Visit.emitted ∧
      EndAlike (Script.scan unfinished) (Script.scan finished) 3 2 := by
  obtain ⟨visit, hvisit, other, hother, hmark, hbindings, hbaseUrl, hindex, hindex', hlines⟩ :
      ∃ visit ∈ (Script.scan unfinished).visits[3]?,
        ∃ other ∈ (Script.scan finished).visits[2]?,
          visit.statement? = some (.boundary "@t".toList) ∧
            visit.before.bindings = other.before.bindings ∧
            visit.before.draft.baseUrl = other.before.draft.baseUrl ∧
            visit.line.index = 3 ∧ other.line.index = 2 ∧
            Script.textsFrom unfinished 3 = Script.textsFrom finished 2 := by
    decide +kernel
  have hsame := isolated_at_boundary unfinished finished hvisit hother ⟨"@t".toList, hmark⟩
    ⟨hbindings, hbaseUrl⟩ (by rw [hindex, hindex', hlines])
  rw [hindex, hindex'] at hsame
  exact ⟨by decide +kernel, hsame⟩

end RequestScript
