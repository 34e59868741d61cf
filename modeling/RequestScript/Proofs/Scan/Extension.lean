import RequestScript.Conversion
import RequestScript.Proofs.Scan.Places

/-!
# Scripts that go on

A script that gets through and is then written on issues what it has issued before, and
more.  Its lines are visited in the same way whatever follows them, with one exception:
the value of the last definition.  A block that nothing has closed is then closed by a
line of the new text, or goes on to its end, and the variable gets another value.  This
changes no request, since no line of the script is left that could use the variable.

Main results:

- Theorem {lit}`blockLines_append`: a block in lines that go on.
- Theorem {lit}`visitLine_append`: a visit whose remaining lines go on.
- Theorem {lit}`steps_append`: a scan that has got through visits the same lines when they
  go on.
- Theorem {lit}`requests_append`: a script that goes on keeps its requests.
-/

namespace RequestScript
namespace Scan

/-! ## One definition -/

/-- A block in lines that go on is closed where it was closed before, or it has taken all
lines and goes on with them. -/
theorem blockLines_append (lines more : List Line) :
    Literal.blockLines (lines ++ more) =
        ((Literal.blockLines lines).1, (Literal.blockLines lines).2 ++ more) ∨
      (Literal.blockLines lines).2 = [] ∧ (Literal.blockLines (lines ++ more)).2 <:+ more := by
  induction lines with
  | nil => exact Or.inr ⟨rfl, blockLines_suffix more⟩
  | cons line lines ih =>
    rw [List.cons_append, Literal.blockLines, Literal.blockLines]
    split
    · exact Or.inl rfl
    · rcases ih with hclosed | hopen
      · rw [hclosed]
        exact Or.inl rfl
      · exact Or.inr hopen

theorem valueFrom_append (text : Text) (rest more : List Line) :
    valueFrom text (rest ++ more) = ((valueFrom text rest).1, (valueFrom text rest).2 ++ more) ∨
      (valueFrom text rest).2 = [] ∧ (valueFrom text (rest ++ more)).2 <:+ more := by
  unfold valueFrom
  split
  · rw [Literal.block, Literal.block]
    rcases blockLines_append rest more with hclosed | hopen
    · rw [hclosed]
      exact Or.inl rfl
    · exact Or.inr hopen
  · exact Or.inl rfl

/-- The value of a definition, when the lines after it go on. -/
theorem definedValue_append {name value given : Text} {rest left : List Line}
    (h : definedValue name value rest = .ok (given, left)) (more : List Line) :
    ∃ longer remaining, definedValue name value (rest ++ more) = .ok (longer, remaining) ∧
      (longer = given ∧ remaining = left ++ more ∨ left = [] ∧ remaining <:+ more) := by
  have hfrom : ∀ {text : Text} {lines : List Line}, (given, left) = valueFrom text lines →
      (valueFrom text (lines ++ more)).1 = given ∧
          (valueFrom text (lines ++ more)).2 = left ++ more ∨
        left = [] ∧ (valueFrom text (lines ++ more)).2 <:+ more := by
    intro text lines heq
    have happend := valueFrom_append text lines more
    rw [← heq] at happend
    rcases happend with hclosed | hopen
    · rw [hclosed]
      exact Or.inl ⟨rfl, rfl⟩
    · exact Or.inr hopen
  rcases definedValue_cases h with ⟨hvalue, heq⟩ | ⟨rfl, next, lines, rfl, heq⟩
  · exact ⟨_, _, definedValue_of_ne_nil hvalue name (rest ++ more), hfrom heq⟩
  · exact ⟨_, _, definedValue_nil_cons name next (lines ++ more), hfrom heq⟩

/-! ## One visit -/

theorem Binds.append {bindings after : Bindings} {rest left : List Line}
    {statement : Option Statement} (h : Binds bindings rest statement after left)
    (more : List Line) :
    ∃ longer remaining, Binds bindings (rest ++ more) statement longer remaining ∧
      (longer = after ∧ remaining = left ++ more ∨ left = [] ∧ remaining <:+ more) := by
  cases h with
  | keep hother => exact ⟨bindings, rest ++ more, .keep hother, Or.inl ⟨rfl, rfl⟩⟩
  | define hdefined =>
    rcases definedValue_append hdefined more with ⟨given, remaining, hlonger, hwhich⟩
    refine ⟨_, remaining, .define hlonger, ?_⟩
    rcases hwhich with ⟨rfl, rfl⟩ | hopen
    · exact Or.inl ⟨rfl, rfl⟩
    · exact Or.inr hopen

/-- A visit is recorded in the same way when the lines after it go on.  It leaves the same
state and the same lines with more after them, or it has used up all lines and may use some
of the new ones. -/
theorem visitLine_append {state : State} {line : Line} {rest : List Line} {passage : Passage}
    (h : visitLine state line rest = .ok passage) (more : List Line) :
    ∃ longer, visitLine state line (rest ++ more) = .ok longer ∧ longer.visit = passage.visit ∧
      (longer.after = passage.after ∧ longer.rest = passage.rest ++ more ∨
        passage.rest = [] ∧ longer.rest <:+ more) := by
  rcases visitLine_ok h with ⟨statement, hpassed⟩
  rcases hpassed.binds.append more with ⟨bindings, remaining, hbinds, hwhich⟩
  have hsame := visitLine_of_binds hpassed.reads hpassed.binds
  rw [h, Except.ok.injEq] at hsame
  refine ⟨_, visitLine_of_binds hpassed.reads hbinds, ?_, ?_⟩
  · -- what is emitted does not depend on the value of the definition
    have hemitted := emit_snd_congr bindings passage.after.bindings
      (drafted state (state.bindings.substitute line.text) statement)
    rw [hsame]
    dsimp only
    rw [hemitted]
  · rcases hwhich with ⟨rfl, hremaining⟩ | hopen
    · exact Or.inl ⟨(congrArg Passage.after hsame).symm, hremaining⟩
    · exact Or.inr hopen

/-! ## A whole scan -/

/-- A scan that has got through visits the same lines when they go on, and has then left
some of the new lines. -/
theorem steps_append {state : State} {lines : List Line}
    (h : (run state lines).failure = none) (more : List Line) :
    ∃ after left, Steps state (lines ++ more) (run state lines).visits after left ∧
      left <:+ more := by
  induction state, lines using run.induct with
  | case1 state =>
    rw [run_nil, List.nil_append]
    exact ⟨state, more, .refl state more, List.suffix_refl more⟩
  | case2 state line rest visit reason hvisit =>
    rw [run_cons_of_error hvisit] at h
    simp at h
  | case3 state line rest passage hvisit _ ih =>
    rw [run_cons_of_ok hvisit] at h ⊢
    rcases visitLine_append hvisit more with ⟨longer, hlonger, hsame, hwhich⟩
    rw [← hsame]
    rcases hwhich with ⟨hafter, hrest⟩ | ⟨hnone, hleft⟩
    · rcases ih h with ⟨after, left, hsteps, hleft⟩
      have hlater : Steps longer.after longer.rest (run passage.after passage.rest).visits after
          left := by
        rw [hafter, hrest]
        exact hsteps
      exact ⟨after, left, .cons hlonger hlater, hleft⟩
    · rw [hnone, run_nil]
      exact ⟨longer.after, longer.rest, .single hlonger, hleft⟩

/-- A scan that has got through issues the same requests when its lines go on, and then
more; it can fail only in the new lines. -/
theorem run_append {state : State} {lines : List Line} (h : (run state lines).failure = none)
    (more : List Line) :
    ∃ later, (run state (lines ++ more)).requests = (run state lines).requests ++ later ∧
      ∀ failure, (run state (lines ++ more)).failure = some failure →
        ∃ line ∈ more, failure.lineNumber = line.number := by
  rcases steps_append h more with ⟨after, left, hsteps, hleft⟩
  refine ⟨(run after left).requests, ?_, fun failure hfailure => ?_⟩
  · rw [hsteps.run_eq]
    exact List.filterMap_append
  · rw [hsteps.run_eq] at hfailure
    rcases exists_line_of_failure hfailure with ⟨line, hline, hnumber, -⟩
    exact ⟨line, hleft.subset hline, hnumber⟩

end Scan

open Scan

/-- A script that gets through keeps its requests, and the events that tell of them, when
it is written on: the longer script gets through with more requests, or it fails at a line
of the new text. -/
theorem requests_append (first second : Text) {requests : List Request}
    (h : Script.requests first = .ok requests) (logger : Logger) :
    ∃ later, (Script.scan (first ++ '\n' :: second)).requests = requests ++ later ∧
      Conversion.scanEvents logger (first ++ '\n' :: second) =
        Conversion.scanEvents logger first ++
          Conversion.emissionEventsFrom logger requests.length later ∧
      (Script.requests (first ++ '\n' :: second) = .ok (requests ++ later) ∨
        ∃ failure, Script.requests (first ++ '\n' :: second) = .error failure ∧
          (Text.lines first).length < failure.lineNumber) := by
  rcases Script.requests_eq_ok.mp h with ⟨hnone, rfl⟩
  -- the lines of the longer text are the lines of the script and those of the new text
  have hlines : Script.lines (first ++ '\n' :: second) = Script.lines first ++
      Script.linesFrom (Text.lines first).length (Text.lines second) := by
    rw [Script.lines, Text.lines_append_cons, Script.linesFrom_append, Nat.zero_add, Script.lines]
  rcases run_append hnone (Script.linesFrom (Text.lines first).length (Text.lines second)) with
    ⟨later, hrequests, hfails⟩
  rw [← hlines] at hrequests hfails
  refine ⟨later, hrequests, ?_, ?_⟩
  · rw [Conversion.scanEvents, Script.scan, hrequests, Conversion.emissionEventsFrom_append,
      Nat.zero_add]
    rfl
  · cases hfailure : (Script.scan (first ++ '\n' :: second)).failure with
    | none => exact Or.inl (Script.requests_eq_ok.mpr ⟨hfailure, hrequests⟩)
    | some failure =>
      rcases hfails failure hfailure with ⟨line, hline, hnumber⟩
      have hplace := Script.le_index_of_mem_linesFrom hline
      refine Or.inr ⟨failure, Script.requests_eq_error.mpr hfailure, ?_⟩
      rw [hnumber, Line.number]
      omega

/-- A script that ends in a block that nothing has closed. -/
def unclosed : Text :=
  "* url 'u'\n* method get\n* def b = \"\"\"\nx".toList

/-- A text that closes the block and uses its value. -/
def closing : Text :=
  "y\"\"\"\n* request b\n* method post\n* header".toList

theorem requests_append_unclosed :
    (Script.scan unclosed).requests.map Request.method = ["GET".toList] ∧
      ∃ later, (Script.scan (unclosed ++ '\n' :: closing)).requests =
          (Script.scan unclosed).requests ++ later ∧
        Conversion.scanEvents {} (unclosed ++ '\n' :: closing) =
          Conversion.scanEvents {} unclosed ++
            Conversion.emissionEventsFrom {} (Script.scan unclosed).requests.length later ∧
        (Script.requests (unclosed ++ '\n' :: closing) =
            .ok ((Script.scan unclosed).requests ++ later) ∨
          ∃ failure, Script.requests (unclosed ++ '\n' :: closing) = .error failure ∧
            (Text.lines unclosed).length < failure.lineNumber) := by
  have hissues : Script.requests unclosed = .ok (Script.scan unclosed).requests :=
    Script.requests_eq_ok.mpr ⟨by decide +kernel, rfl⟩
  exact ⟨by decide +kernel, requests_append unclosed closing hissues {}⟩

end RequestScript
