import RequestScript.Bindings
import RequestScript.Request
import RequestScript.Statement.Reading

/-!
# Scanning a script

A scan visits the lines of a script from first to last.  It keeps the variables and
the request in progress, and emits a request as soon as it is complete.  A scenario
line drops everything but the base address and the variables, and a line that
begins with {lit}`And` drops a method that no base address has met in a fresh
scenario.  A definition may use up the lines after it.

A scan is recorded as the list of its visits, so that what was read where, and what
was emitted there, can be told afterwards.

Main results:

- Definition {lit}`Scan.run`: the visits of a scan and the failure that ended
  it, if any.
- Theorem {lit}`Scan.length_visitLine_le`: no visit adds lines, so a scan ends.
- Theorem {lit}`Scan.run_nil`, theorem {lit}`Scan.run_cons_of_ok` and theorem
  {lit}`Scan.run_cons_of_error`: how a scan goes on.
-/

namespace RequestScript

namespace Scan

/-- What a scan carries from line to line. -/
structure State where
  bindings : Bindings := ∅
  draft : Draft := {}
deriving DecidableEq, Repr, Inhabited

/-! ## Definitions -/

/-- The value of a definition and the lines after it.  An empty value stands on
the next line, and a value that opens a block is the body of that block.  The
lines it uses are taken as they are written. -/
def definedValue (name value : Text) (rest : List Line) :
    Except Malformation (Text × List Line) :=
  let finish (value : Text) (rest : List Line) : Text × List Line :=
    if Literal.opensBlock value then
      let (body, after) := Literal.block rest
      (Literal.stripQuotes body, after)
    else (Literal.stripQuotes value, rest)
  if value.isEmpty then
    match rest with
    | [] => .error (.missingValue name)
    | next :: rest => .ok (finish next.text rest)
  else .ok (finish value rest)

/-- A definition never adds lines. -/
theorem length_definedValue_snd_le {name value : Text} {rest : List Line}
    {result : Text × List Line} (h : definedValue name value rest = .ok result) :
    result.2.length ≤ rest.length := by
  unfold definedValue at h
  split at h
  · split at h
    · cases h
    · rename_i next rest'
      injection h with h
      subst h
      dsimp only
      split
      · exact Nat.le_succ_of_le (Literal.length_block_snd_le rest')
      · simp
  · injection h with h
    subst h
    dsimp only
    split
    · exact Literal.length_block_snd_le rest
    · simp

/-! ## Effects -/

/-- What a statement other than a definition or a scenario line does to the
request in progress. -/
def applyStatement (bindings : Bindings) (draft : Draft) : Statement → Draft
  | .boundary _ => draft
  | .definition .. => draft
  | .url _ url => draft.setBaseUrl url
  | .path _ path => draft.setPath path
  | .header _ name value => draft.setHeader name value
  | .method _ method => draft.setMethod method
  | .param _ name value => draft.setParam name value
  | .request _ name =>
    match bindings.value? name with
    | some body => draft.setBody body
    | none => draft

/-- Whether a line drops the request in progress: it continues, in a fresh
scenario, after a method that no base address has met. -/
def continuesPending (draft : Draft) (text : Text) : Bool :=
  draft.freshScenario && Text.firstWord text == Leader.also.spelling && !draft.method.isEmpty

/-- The request in progress just before a line other than a scenario line takes
effect. -/
def beforeEffect (draft : Draft) (text : Text) : Draft :=
  if continuesPending draft text then draft.reset else draft

/-- Emit the request in progress if it is complete. -/
def emit (state : State) : State × Option Request :=
  if state.draft.isComplete then
    ({ state with draft := state.draft.reset }, some state.draft.toRequest)
  else (state, none)

/-- The effect of a line that states something or nothing: the state after it,
the request it emits, and the lines that are left. -/
def effect (state : State) (text : Text) (statement : Option Statement) (rest : List Line) :
    Except Malformation (State × Option Request × List Line) :=
  match statement with
  | some (.boundary _) => .ok ({ state with draft := state.draft.startScenario }, none, rest)
  | some (.definition _ name value) => do
    let (value, rest) ← definedValue name value rest
    let (state, emitted) := emit
      { bindings := state.bindings.define name value, draft := beforeEffect state.draft text }
    return (state, emitted, rest)
  | some statement =>
    let (state, emitted) := emit
      { state with
        draft := applyStatement state.bindings (beforeEffect state.draft text) statement }
    .ok (state, emitted, rest)
  | none =>
    let (state, emitted) := emit { state with draft := beforeEffect state.draft text }
    .ok (state, emitted, rest)

/-- No effect adds lines. -/
theorem length_effect_le {state : State} {text : Text} {statement : Option Statement}
    {rest : List Line} {result : State × Option Request × List Line}
    (h : effect state text statement rest = .ok result) :
    result.2.2.length ≤ rest.length := by
  unfold effect at h
  split at h
  · injection h with h
    subst h
    exact Nat.le_refl _
  · rename_i name value
    cases hd : definedValue name value rest with
    | error e => simp [hd, bind, Except.bind] at h
    | ok defined =>
      simp only [hd, bind, Except.bind, pure, Except.pure] at h
      injection h with h
      subst h
      exact length_definedValue_snd_le hd
  · injection h with h
    subst h
    exact Nat.le_refl _
  · injection h with h
    subst h
    exact Nat.le_refl _

/-! ## Visits -/

/-- One line that a scan has visited: the state before it, the line with its
variables replaced, what it states or why it can not be read, and the request
that was emitted there. -/
structure Visit where
  before : State
  line : Line
  text : Text
  reading : Except Malformation (Option Statement)
  emitted : Option Request

/-- Why and where a scan ended early: the number and the text of the line as it
was written. -/
structure Failure where
  lineNumber : Nat
  line : Text
  reason : Malformation
deriving DecidableEq, Repr

/-- A recorded scan. -/
structure Run where
  visits : List Visit
  failure : Option Failure

/-- The requests that a scan has emitted, in order. -/
def Run.requests (run : Run) : List Request :=
  run.visits.filterMap Visit.emitted

/-- A visit that has left the scan in a new state. -/
structure Passage where
  visit : Visit
  after : State
  rest : List Line

/-- Visit one line.  The visit is recorded also when the line can not be
processed. -/
def visitLine (state : State) (line : Line) (rest : List Line) :
    Except (Visit × Malformation) Passage :=
  let text := state.bindings.substitute line.text
  let reading := Statement.ofText text line.text
  let silent : Visit := ⟨state, line, text, reading, none⟩
  match reading with
  | .error reason => .error (silent, reason)
  | .ok statement =>
    match effect state text statement rest with
    | .error reason => .error (silent, reason)
    | .ok (after, emitted, rest) => .ok ⟨{ silent with emitted := emitted }, after, rest⟩

/-- No visit adds lines. -/
theorem length_visitLine_le {state : State} {line : Line} {rest : List Line} {passage : Passage}
    (h : visitLine state line rest = .ok passage) : passage.rest.length ≤ rest.length := by
  unfold visitLine at h
  dsimp only at h
  split at h
  · cases h
  · split at h
    · cases h
    · rename_i heffect
      injection h with h
      subst h
      exact length_effect_le heffect

/-- Scan lines from a state on. -/
def run (state : State) (lines : List Line) : Run :=
  match lines with
  | [] => ⟨[], none⟩
  | line :: rest =>
    match h : visitLine state line rest with
    | .error (visit, reason) => ⟨[visit], some ⟨line.number, line.text, reason⟩⟩
    | .ok passage =>
      have := length_visitLine_le h
      let later := run passage.after passage.rest
      ⟨passage.visit :: later.visits, later.failure⟩
termination_by lines.length
decreasing_by simp only [List.length_cons]; omega

@[simp]
theorem run_nil (state : State) : run state [] = ⟨[], none⟩ := by
  rw [run]

/-- A line that is read is followed by the run of what is left behind it. -/
theorem run_cons_of_ok {state : State} {line : Line} {rest : List Line} {passage : Passage}
    (h : visitLine state line rest = .ok passage) :
    run state (line :: rest) =
      ⟨passage.visit :: (run passage.after passage.rest).visits,
        (run passage.after passage.rest).failure⟩ := by
  rw [run]
  split
  · simp_all
  · simp_all

/-- A line that can not be read ends the run, and its visit is the last one. -/
theorem run_cons_of_error {state : State} {line : Line} {rest : List Line} {visit : Visit}
    {reason : Malformation} (h : visitLine state line rest = .error (visit, reason)) :
    run state (line :: rest) = ⟨[visit], some ⟨line.number, line.text, reason⟩⟩ := by
  rw [run]
  split
  · simp_all
  · simp_all

end Scan

namespace Script

/-- The recorded scan of a script. -/
def scan (content : Text) : Scan.Run :=
  Scan.run {} (lines content)

/-- The requests that a script issues, or the first fault in it. -/
def requests (content : Text) : Except Scan.Failure (List Request) :=
  let run := scan content
  match run.failure with
  | some failure => .error failure
  | none => .ok run.requests

/-- A script has requests exactly when its scan does not fail. -/
theorem requests_eq_ok {content : Text} {issued : List Request} :
    requests content = .ok issued ↔
      (scan content).failure = none ∧ (scan content).requests = issued := by
  cases h : (scan content).failure <;> simp [requests, h]

/-- A script has no requests exactly when its scan fails, and for its failure. -/
theorem requests_eq_error {content : Text} {failure : Scan.Failure} :
    requests content = .error failure ↔ (scan content).failure = some failure := by
  cases h : (scan content).failure <;> simp [requests, h]

end Script

/-- The wording of a fault that has a place: the place and the line are told
around the reason. -/
def locatedMessage (lineNumber : Int) (reason line : Text) : Text :=
  "line ".toList ++ Text.ofInt lineNumber ++ ": ".toList ++ reason ++ ": ".toList
    ++ Text.quoted line

/-- The wording of a failed scan. -/
def Scan.Failure.message (failure : Scan.Failure) : Text :=
  locatedMessage failure.lineNumber failure.reason.message failure.line

end RequestScript
