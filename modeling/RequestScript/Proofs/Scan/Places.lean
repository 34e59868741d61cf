import Mathlib.Data.List.Basic
import RequestScript.Proofs.Scan.Steps

/-!
# Places of a script

A scan looks at the texts of its lines and never at their places: lines that stand
further down are visited in the same way, and only the places in the record move along.
The lines that a scan has left are the lines of the script from some place on, and a
failure tells the place of one of them.

Main results:

- Theorem {lit}`run_shift`: a scan of lines that stand further down.
- Theorem {lit}`Reaches.lines_eq`: the lines that a scan has left.
- Theorem {lit}`exists_steps_of_getElem?`: a recorded visit cuts a scan in two.
- Theorem {lit}`exists_line_of_failure`: where a failure is reported.
-/

namespace RequestScript

/-! ## Moving lines -/

/-- The same line, some places further down. -/
def Line.shift (line : Line) (places : Nat) : Line :=
  { line with index := line.index + places }

@[simp]
theorem Line.shift_text (line : Line) (places : Nat) : (line.shift places).text = line.text := rfl

namespace Script

/-- Lines that are shifted are the lines of the same texts from a later place on. -/
theorem linesFrom_shift (index places : Nat) (texts : List Text) :
    (linesFrom index texts).map (·.shift places) = linesFrom (index + places) texts := by
  induction texts generalizing index with
  | nil => rfl
  | cons raw texts ih =>
    have hnext : index + 1 + places = index + places + 1 := by omega
    rw [linesFrom, linesFrom, List.map_cons, ih, hnext]
    rfl

/-- Lines that have been trimmed are trimmed lines. -/
theorem linesFrom_map_text (index : Nat) (texts : List Text) :
    linesFrom index ((linesFrom index texts).map Line.text) = linesFrom index texts := by
  induction texts generalizing index with
  | nil => rfl
  | cons raw texts ih => simp [linesFrom, ih]

/-- The lines behind the first ones are those of the texts behind the first ones. -/
theorem drop_linesFrom (index count : Nat) (texts : List Text) :
    (linesFrom index texts).drop count = linesFrom (index + count) (texts.drop count) := by
  induction count generalizing index texts with
  | zero => rfl
  | succ count ih =>
    cases texts with
    | nil => simp
    | cons raw texts =>
      have hnext : index + 1 + count = index + (count + 1) := by omega
      rw [linesFrom, List.drop_succ_cons, List.drop_succ_cons, ih, hnext]

/-- The lines of two lists of texts are numbered on. -/
theorem linesFrom_append (index : Nat) (texts more : List Text) :
    linesFrom index (texts ++ more) =
      linesFrom index texts ++ linesFrom (index + texts.length) more := by
  induction texts generalizing index with
  | nil => rfl
  | cons raw texts ih =>
    have hnext : index + 1 + texts.length = index + (raw :: texts).length := by
      rw [List.length_cons]
      omega
    rw [List.cons_append, linesFrom, linesFrom, List.cons_append, ih, hnext]

/-- No line stands before the first one. -/
theorem le_index_of_mem_linesFrom {index : Nat} {texts : List Text} {line : Line}
    (h : line ∈ linesFrom index texts) : index ≤ line.index := by
  induction texts generalizing index with
  | nil => simp at h
  | cons raw texts ih =>
    rcases List.mem_cons.mp h with rfl | hlater
    · exact Nat.le_refl index
    · exact Nat.le_of_succ_le (ih hlater)

/-- The texts of the lines of a script from a place on. -/
def textsFrom (content : Text) (index : Nat) : List Text :=
  ((lines content).drop index).map Line.text

end Script

namespace Scan

/-- The same visit, some places further down. -/
def Visit.shift (visit : Visit) (places : Nat) : Visit :=
  { visit with line := visit.line.shift places }

/-- The same failure, some places further down. -/
def Failure.shift (failure : Failure) (places : Nat) : Failure :=
  { failure with lineNumber := failure.lineNumber + places }

/-- The same passage, some places further down. -/
def Passage.shift (passage : Passage) (places : Nat) : Passage :=
  ⟨passage.visit.shift places, passage.after, passage.rest.map (·.shift places)⟩

/-- The same recorded scan, some places further down. -/
def Run.shift (run : Run) (places : Nat) : Run :=
  ⟨run.visits.map (·.shift places), run.failure.map (·.shift places)⟩

@[simp]
theorem Run.shift_requests (run : Run) (places : Nat) :
    (run.shift places).requests = run.requests := by
  rw [requests, requests, shift, List.filterMap_map]
  rfl

/-! ## A scan does not see places -/

/-- A block is found alike in lines that are shifted. -/
theorem blockLines_shift (lines : List Line) (places : Nat) :
    Literal.blockLines (lines.map (·.shift places)) =
      ((Literal.blockLines lines).1, (Literal.blockLines lines).2.map (·.shift places)) := by
  induction lines with
  | nil => rfl
  | cons line lines ih =>
    rw [List.map_cons, Literal.blockLines, Literal.blockLines, ih, Line.shift_text]
    split <;> rfl

/-- A value is read alike from lines that are shifted. -/
theorem valueFrom_shift (text : Text) (rest : List Line) (places : Nat) :
    valueFrom text (rest.map (·.shift places)) =
      ((valueFrom text rest).1, (valueFrom text rest).2.map (·.shift places)) := by
  unfold valueFrom
  split
  · rw [Literal.block, blockLines_shift, Literal.block]
  · rfl

/-- A definition is read alike from lines that are shifted. -/
theorem definedValue_shift (name value : Text) (rest : List Line) (places : Nat) :
    definedValue name value (rest.map (·.shift places)) =
      (definedValue name value rest).map fun defined =>
        (defined.1, defined.2.map (·.shift places)) := by
  by_cases hvalue : value = []
  · subst hvalue
    cases rest with
    | nil => rfl
    | cons next rest =>
      rw [List.map_cons, definedValue_nil_cons, definedValue_nil_cons, Line.shift_text,
        valueFrom_shift]
      rfl
  · rw [definedValue_of_ne_nil hvalue, definedValue_of_ne_nil hvalue, valueFrom_shift]
    rfl

/-- A statement has the same effect in lines that are shifted. -/
theorem effect_shift (state : State) (text : Text) (statement : Option Statement)
    (rest : List Line) (places : Nat) :
    effect state text statement (rest.map (·.shift places)) =
      (effect state text statement rest).map fun result =>
        (result.1, result.2.1, result.2.2.map (·.shift places)) := by
  cases statement with
  | none => rfl
  | some stated =>
    cases stated with
    | definition leader name value =>
      rw [effect, effect, definedValue_shift]
      cases definedValue name value rest <;> rfl
    | _ => rfl

/-- A line that stands further down is visited in the same way. -/
theorem visitLine_shift (state : State) (line : Line) (rest : List Line) (places : Nat) :
    visitLine state (line.shift places) (rest.map (·.shift places)) =
      ((visitLine state line rest).map (·.shift places)).mapError fun failed =>
        (failed.1.shift places, failed.2) := by
  simp only [visitLine, Line.shift_text]
  cases Statement.ofText (state.bindings.substitute line.text) line.text with
  | error reason => rfl
  | ok statement =>
    dsimp only
    rw [effect_shift]
    cases effect state (state.bindings.substitute line.text) statement rest <;> rfl

/-- A scan of lines that stand further down does the same and reports it further down. -/
theorem run_shift (state : State) (lines : List Line) (places : Nat) :
    run state (lines.map (·.shift places)) = (run state lines).shift places := by
  induction state, lines using run.induct with
  | case1 state =>
    rw [List.map_nil, run_nil]
    rfl
  | case2 state line rest visit reason hvisit =>
    have hshifted := visitLine_shift state line rest places
    rw [hvisit] at hshifted
    rw [List.map_cons, run_cons_of_error hvisit, run_cons_of_error hshifted]
    simp [Run.shift, Failure.shift, Line.number, Line.shift, Nat.add_right_comm]
  | case3 state line rest passage hvisit _ ih =>
    have hshifted := visitLine_shift state line rest places
    rw [hvisit] at hshifted
    rw [List.map_cons, run_cons_of_ok hvisit, run_cons_of_ok hshifted]
    simp [Passage.shift, ih, Run.shift]

/-! ## The lines that are left -/

/-- A scan has left the lines of its script from the next line on. -/
theorem Reaches.lines_eq {content : Text} {state : State} {line : Line} {rest : List Line}
    (h : Reaches content state (line :: rest)) :
    line :: rest = (Script.lines content).drop line.index := by
  rcases h with ⟨visits, hsteps⟩
  rcases hsteps.suffix with ⟨front, hfront⟩
  have hdrop : (Script.lines content).drop front.length = line :: rest := by
    rw [← hfront, List.drop_left]
  have hindex : line.index = front.length := by
    rw [Script.lines, Script.drop_linesFrom] at hdrop
    cases htexts : (Text.lines content).drop front.length with
    | nil => simp [htexts] at hdrop
    | cons raw texts =>
      rw [htexts, Script.linesFrom, List.cons.injEq] at hdrop
      rw [← hdrop.1]
      exact Nat.zero_add front.length
  rw [hindex, hdrop]

/-- The lines that a scan has left, told by their texts and the place of the first. -/
theorem Reaches.lines_eq_shift {content : Text} {state : State} {line : Line} {rest : List Line}
    (h : Reaches content state (line :: rest)) :
    line :: rest =
      (Script.linesFrom 0 (Script.textsFrom content line.index)).map (·.shift line.index) := by
  rw [Script.linesFrom_shift, Nat.zero_add, Script.textsFrom, Script.lines,
    Script.drop_linesFrom, Nat.zero_add, Script.linesFrom_map_text, h.lines_eq, Script.lines,
    Script.drop_linesFrom, Nat.zero_add]

/-- A recorded visit cuts a scan in two: the visits before it, and the scan from its state
and its line on. -/
theorem exists_steps_of_getElem? {state : State} {lines : List Line} {place : Nat} {visit : Visit}
    (h : (run state lines).visits[place]? = some visit) :
    ∃ here line rest,
      Steps state lines ((run state lines).visits.take place) here (line :: rest) ∧
        visit = visited here line rest ∧
        (run state lines).visits.drop place = (run here (line :: rest)).visits ∧
        (run state lines).failure = (run here (line :: rest)).failure := by
  rcases List.getElem?_eq_some_iff.mp h with ⟨hlt, hget⟩
  have hsplit : (run state lines).visits = (run state lines).visits.take place ++
      visit :: (run state lines).visits.drop (place + 1) := by
    rw [← hget, List.getElem_cons_drop, List.take_append_drop]
  rcases exists_steps_of_visits hsplit with ⟨here, line, rest, hsteps, hvisited⟩
  have hvisits := congrArg Run.visits hsteps.run_eq
  have hfailure := congrArg Run.failure hsteps.run_eq
  have hcut := (List.take_append_drop place (run state lines).visits).trans hvisits
  exact ⟨here, line, rest, hsteps, hvisited, List.append_cancel_left hcut, hfailure⟩

/-! ## Where a failure is reported -/

/-- A failure is reported at one of the lines of a scan, as the line is written. -/
theorem exists_line_of_failure {state : State} {lines : List Line} {failure : Failure}
    (h : (run state lines).failure = some failure) :
    ∃ line ∈ lines, failure.lineNumber = line.number ∧ failure.line = line.text := by
  induction state, lines using run.induct with
  | case1 state => simp at h
  | case2 state line rest visit reason hvisit =>
    rw [run_cons_of_error hvisit] at h
    obtain rfl := Option.some.inj h
    exact ⟨line, List.mem_cons_self, rfl, rfl⟩
  | case3 state line rest passage hvisit _ ih =>
    rw [run_cons_of_ok hvisit] at h
    rcases ih h with ⟨found, hfound, hplace⟩
    exact ⟨found, List.mem_cons_of_mem line ((rest_suffix hvisit).subset hfound), hplace⟩

end Scan
end RequestScript
