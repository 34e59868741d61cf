import RequestScript.Scan
import RequestScript.Proofs.Classification

/-!
# Steps of a scan

A visit does three things, one after another: it reads the line, it changes the
variables and the request in progress, and it emits that request if it is complete.
This file says once what a visit can do, follows a scan over several visits, and
turns a rule that one visit keeps into a rule for whole scans.

Main results:

- Definition {lit}`drafted`: the request in progress after a line, for every kind
  of line.
- Theorem {lit}`visitLine_ok`: everything that a successful visit does.
- Theorem {lit}`exists_steps_of_visits`: every recorded visit has been reached by
  steps.
- Theorem {lit}`Steps.preserves`: what each visit keeps, a scan keeps.
- Theorem {lit}`Reaches.named`: the variables of a script have proper names.
-/

namespace RequestScript
namespace Scan

/-! ## One visit -/

/-- What the line of a visit states; nothing when it can not be read. -/
def Visit.statement? (visit : Visit) : Option Statement :=
  match visit.reading with
  | .ok statement => statement
  | .error _ => none

/-- The method that a visit has given. -/
def Visit.method? (visit : Visit) : Option Text :=
  match visit.statement? with
  | some (.method _ given) => some given
  | _ => none

/-- The base address that a visit has given, which may be empty. -/
def Visit.url? (visit : Visit) : Option Text :=
  match visit.statement? with
  | some (.url _ given) => some given
  | _ => none

/-- Whether the line of a visit begins with the word that goes on with a
scenario. -/
def Visit.continues (visit : Visit) : Prop :=
  Text.firstWord visit.text = Leader.also.spelling

/-- The request in progress when a line has taken effect and before it is
emitted. -/
def drafted (state : State) (text : Text) : Option Statement → Draft
  | none => beforeEffect state.draft text
  | some (.boundary _) => state.draft.startScenario
  | some statement => applyStatement state.bindings (beforeEffect state.draft text) statement

section Drafted

variable (state : State) (text : Text) (leader : Leader) (name value : Text)

@[simp]
theorem drafted_none : drafted state text none = beforeEffect state.draft text := rfl

@[simp]
theorem drafted_boundary (line : Text) :
    drafted state text (some (.boundary line)) = state.draft.startScenario := rfl

@[simp]
theorem drafted_definition :
    drafted state text (some (.definition leader name value)) =
      beforeEffect state.draft text := rfl

@[simp]
theorem drafted_url :
    drafted state text (some (.url leader value)) =
      (beforeEffect state.draft text).setBaseUrl value := rfl

@[simp]
theorem drafted_path :
    drafted state text (some (.path leader value)) =
      (beforeEffect state.draft text).setPath value := rfl

@[simp]
theorem drafted_header :
    drafted state text (some (.header leader name value)) =
      (beforeEffect state.draft text).setHeader name value := rfl

@[simp]
theorem drafted_method :
    drafted state text (some (.method leader value)) =
      (beforeEffect state.draft text).setMethod value := rfl

@[simp]
theorem drafted_param :
    drafted state text (some (.param leader name value)) =
      (beforeEffect state.draft text).setParam name value := rfl

/-- A request line for a variable puts its value into the body. -/
theorem drafted_request_of_some {body : Text} (h : state.bindings.value? name = some body) :
    drafted state text (some (.request leader name)) =
      (beforeEffect state.draft text).setBody body := by
  simp [drafted, applyStatement, h]

/-- A request line for a name that is no variable leaves the body as it is. -/
theorem drafted_request_of_none (h : state.bindings.value? name = none) :
    drafted state text (some (.request leader name)) = beforeEffect state.draft text := by
  simp [drafted, applyStatement, h]

/-- Only a boundary starts the draft anew; every other statement is applied to it. -/
theorem drafted_of_ne_boundary {statement : Statement}
    (h : ∀ mark, statement ≠ .boundary mark) :
    drafted state text (some statement) =
      applyStatement state.bindings (beforeEffect state.draft text) statement := by
  cases statement with
  | boundary mark => exact absurd rfl (h mark)
  | _ => rfl

end Drafted

/-- What a statement makes of the variables and of the lines that are left: a
definition adds its variable and may use up lines, and nothing else does
either. -/
inductive Binds (bindings : Bindings) (rest : List Line) :
    Option Statement → Bindings → List Line → Prop where
  | define {leader : Leader} {name value given : Text} {left : List Line}
      (h : definedValue name value rest = .ok (given, left)) :
      Binds bindings rest (some (.definition leader name value)) (bindings.define name given) left
  | keep {statement : Option Statement}
      (h : ∀ leader name value, statement ≠ some (.definition leader name value)) :
      Binds bindings rest statement bindings rest

namespace Binds

variable {bindings after : Bindings} {rest left : List Line}

/-- A definition gives its variable the value that has been found. -/
theorem exists_definedValue {leader : Leader} {name value : Text}
    (h : Binds bindings rest (some (.definition leader name value)) after left) :
    ∃ given, definedValue name value rest = .ok (given, left) ∧
      after = bindings.define name given := by
  cases h with
  | define hdefined => exact ⟨_, hdefined, rfl⟩
  | keep hother => exact absurd rfl (hother leader name value)

/-- Sound statements keep the names of the variables proper. -/
theorem named {statement : Option Statement} (h : Binds bindings rest statement after left)
    (hnamed : bindings.Named) (hsound : ∀ stated, statement = some stated → stated.Sound) :
    after.Named := by
  cases h with
  | define => exact hnamed.define (hsound _ rfl) _
  | keep => exact hnamed

end Binds

/-- A complete draft is issued and reset. -/
theorem emit_of_isComplete {draft : Draft} (h : draft.isComplete = true) (bindings : Bindings) :
    emit ⟨bindings, draft⟩ = (⟨bindings, draft.reset⟩, some draft.toRequest) :=
  if_pos h

/-- A draft that is not complete goes on. -/
theorem emit_of_not_isComplete {draft : Draft} (h : draft.isComplete = false)
    (bindings : Bindings) : emit ⟨bindings, draft⟩ = (⟨bindings, draft⟩, none) := by
  simp [emit, h]

/-- Issuing a request does not touch the variables. -/
@[simp]
theorem emit_bindings (state : State) : (emit state).1.bindings = state.bindings := by
  unfold emit
  split <;> rfl

/-- What is emitted does not depend on the variables. -/
theorem emit_snd_congr (bindings other : Bindings) (draft : Draft) :
    (emit ⟨bindings, draft⟩).2 = (emit ⟨other, draft⟩).2 := by
  unfold emit
  split <;> rfl

/-- An effect changes the variables, then drafts the request, then emits it. -/
theorem effect_ok {state : State} {text : Text} {statement : Option Statement}
    {rest left : List Line} {after : State} {emitted : Option Request}
    (h : effect state text statement rest = .ok (after, emitted, left)) :
    ∃ bindings, Binds state.bindings rest statement bindings left ∧
      emit ⟨bindings, drafted state text statement⟩ = (after, emitted) := by
  unfold effect at h
  split at h
  · -- a scenario line emits nothing, as an emission of its draft would not
    simp only [Except.ok.injEq, Prod.mk.injEq] at h
    rcases h with ⟨rfl, rfl, rfl⟩
    exact ⟨state.bindings, .keep (by simp), emit_of_not_isComplete rfl _⟩
  · rename_i leader name value
    cases hd : definedValue name value rest with
    | error reason => simp [hd, bind, Except.bind] at h
    | ok defined =>
      rcases defined with ⟨given, lines⟩
      simp only [hd, bind, Except.bind, pure, Except.pure, Except.ok.injEq, Prod.mk.injEq] at h
      rcases h with ⟨rfl, rfl, rfl⟩
      exact ⟨state.bindings.define name given, .define hd, rfl⟩
  · rename_i stated hboundary hdefinition
    simp only [Except.ok.injEq, Prod.mk.injEq] at h
    rcases h with ⟨rfl, rfl, rfl⟩
    refine ⟨state.bindings, .keep fun leader name value heq => ?_, ?_⟩
    · exact hdefinition leader name value (by simpa using heq)
    · rw [drafted_of_ne_boundary state text fun mark heq => hboundary mark heq]
  · simp only [Except.ok.injEq, Prod.mk.injEq] at h
    rcases h with ⟨rfl, rfl, rfl⟩
    exact ⟨state.bindings, .keep (by simp), rfl⟩

/-- Only a definition can fail once its line has been read. -/
theorem effect_error {state : State} {text : Text} {statement : Option Statement}
    {rest : List Line} {reason : Malformation}
    (h : effect state text statement rest = .error reason) :
    ∃ leader name value, statement = some (.definition leader name value) ∧
      definedValue name value rest = .error reason := by
  unfold effect at h
  split at h
  · simp at h
  · rename_i leader name value
    cases hd : definedValue name value rest with
    | error found =>
      obtain rfl : found = reason := by simpa [hd, bind, Except.bind] using h
      exact ⟨leader, name, value, rfl, hd⟩
    | ok defined => simp [hd, bind, Except.bind, pure, Except.pure] at h
  · simp at h
  · simp at h

/-- Everything that a successful visit does. -/
structure Passed (state : State) (line : Line) (rest : List Line) (passage : Passage)
    (statement : Option Statement) : Prop where
  reads : Statement.ofText (state.bindings.substitute line.text) line.text = .ok statement
  binds : Binds state.bindings rest statement passage.after.bindings passage.rest
  draft : passage.after.draft =
    let drafted := drafted state (state.bindings.substitute line.text) statement
    if drafted.isComplete then drafted.reset else drafted
  emitted : passage.visit.emitted =
    let drafted := drafted state (state.bindings.substitute line.text) statement
    if drafted.isComplete then some drafted.toRequest else none
  visit : passage.visit =
    ⟨state, line, state.bindings.substitute line.text, .ok statement, passage.visit.emitted⟩

namespace Passed

variable {state : State} {line : Line} {rest : List Line} {passage : Passage}
  {statement : Option Statement}

/-- The visit records the statement that was read. -/
theorem statement?_eq (h : Passed state line rest passage statement) :
    passage.visit.statement? = statement := by
  rw [h.visit]
  rfl

/-- The visit records the line with its variables replaced. -/
theorem text_eq (h : Passed state line rest passage statement) :
    passage.visit.text = state.bindings.substitute line.text := by
  rw [h.visit]

/-- What a visit has read is sound. -/
theorem sound (h : Passed state line rest passage statement) :
    ∀ stated, statement = some stated → stated.Sound := by
  rintro stated rfl
  exact Statement.sound_of_ofText h.reads

end Passed

/-- A visit that succeeds has read a statement, or none, and has passed the line. -/
theorem visitLine_ok {state : State} {line : Line} {rest : List Line} {passage : Passage}
    (h : visitLine state line rest = .ok passage) :
    ∃ statement, Passed state line rest passage statement := by
  unfold visitLine at h
  dsimp only at h
  split at h
  · simp at h
  · rename_i statement hread
    split at h
    · simp at h
    · rename_i after emitted left heffect
      rcases effect_ok heffect with ⟨bindings, hbinds, hemit⟩
      rw [Except.ok.injEq] at h
      subst h
      unfold emit at hemit
      refine ⟨statement, hread, ?_, ?_, ?_, by simp [hread]⟩ <;> dsimp only at hemit ⊢ <;>
        split at hemit <;> rename_i hcomplete <;>
        simp only [Prod.mk.injEq] at hemit <;> rcases hemit with ⟨rfl, rfl⟩
      · exact hbinds
      · exact hbinds
      · rw [if_pos hcomplete]
      · rw [if_neg hcomplete]
      · rw [if_pos hcomplete]
      · rw [if_neg hcomplete]

/-- What a statement makes of variables and lines, and the request in progress that it
drafts, make up its effect. -/
theorem effect_of_binds {state : State} {text : Text} {statement : Option Statement}
    {rest left : List Line} {bindings : Bindings}
    (h : Binds state.bindings rest statement bindings left) :
    effect state text statement rest =
      .ok ((emit ⟨bindings, drafted state text statement⟩).1,
        (emit ⟨bindings, drafted state text statement⟩).2, left) := by
  cases h with
  | define hdefined => simp [effect, hdefined, bind, Except.bind, pure, Except.pure]
  | keep hother =>
    cases statement with
    | none => rfl
    | some stated =>
      cases stated with
      | boundary mark => rfl
      | definition leader name value => exact absurd rfl (hother leader name value)
      | _ => rfl

/-- A visit that can read its line and finds the value of its definition succeeds. -/
theorem visitLine_of_binds {state : State} {line : Line} {rest left : List Line}
    {statement : Option Statement} {bindings : Bindings}
    (hread : Statement.ofText (state.bindings.substitute line.text) line.text = .ok statement)
    (hbinds : Binds state.bindings rest statement bindings left) :
    let after := emit ⟨bindings, drafted state (state.bindings.substitute line.text) statement⟩
    visitLine state line rest =
      .ok ⟨⟨state, line, state.bindings.substitute line.text, .ok statement, after.2⟩,
        after.1, left⟩ := by
  simp [visitLine, hread, effect_of_binds hbinds]

/-- A visit that fails emits nothing; it could not read its line, or the line is a
definition. -/
theorem visitLine_error {state : State} {line : Line} {rest : List Line} {visit : Visit}
    {reason : Malformation} (h : visitLine state line rest = .error (visit, reason)) :
    visit.before = state ∧ visit.line = line ∧ visit.emitted = none ∧
      (visit.statement? = none ∨
        ∃ leader name value, visit.statement? = some (.definition leader name value)) := by
  unfold visitLine at h
  dsimp only at h
  split at h
  · rename_i found hread
    simp only [Except.error.injEq, Prod.mk.injEq] at h
    rcases h with ⟨rfl, rfl⟩
    exact ⟨rfl, rfl, rfl, Or.inl (by simp [Visit.statement?, hread])⟩
  · rename_i statement hread
    split at h
    · rename_i found heffect
      rcases effect_error heffect with ⟨leader, name, value, rfl, -⟩
      simp only [Except.error.injEq, Prod.mk.injEq] at h
      rcases h with ⟨rfl, rfl⟩
      exact ⟨rfl, rfl, rfl, Or.inr ⟨leader, name, value, by simp [Visit.statement?, hread]⟩⟩
    · simp at h

/-- A visit leaves no complete request in progress. -/
theorem isComplete_after {state : State} {line : Line} {rest : List Line} {passage : Passage}
    (h : visitLine state line rest = .ok passage) : passage.after.draft.isComplete = false := by
  rcases visitLine_ok h with ⟨statement, hpassed⟩
  rw [hpassed.draft]
  dsimp only
  split
  · rfl
  · rename_i hcomplete
    simpa using hcomplete

/-! ## Lines that are left -/

/-- What is left behind a block are the last lines. -/
theorem blockLines_suffix (lines : List Line) : (Literal.blockLines lines).2 <:+ lines := by
  induction lines with
  | nil => exact List.suffix_refl []
  | cons line rest ih =>
    rw [Literal.blockLines]
    split
    · exact List.suffix_cons line rest
    · exact ih.trans (List.suffix_cons line rest)

/-- The value that begins with a text, and the lines after it: the text itself, or the
block that the text opens. -/
def valueFrom (text : Text) (rest : List Line) : Text × List Line :=
  if Literal.opensBlock text then
    (Literal.stripQuotes (Literal.block rest).1, (Literal.block rest).2)
  else (Literal.stripQuotes text, rest)

/-- A definition without a value needs a line after it. -/
@[simp]
theorem definedValue_nil_nil (name : Text) :
    definedValue name [] [] = .error (.missingValue name) := rfl

/-- A definition without a value takes the next line for it. -/
@[simp]
theorem definedValue_nil_cons (name : Text) (next : Line) (rest : List Line) :
    definedValue name [] (next :: rest) = .ok (valueFrom next.text rest) := rfl

/-- A definition with a value opens with that value. -/
theorem definedValue_of_ne_nil {value : Text} (h : value ≠ []) (name : Text) (rest : List Line) :
    definedValue name value rest = .ok (valueFrom value rest) := by
  simp [definedValue, valueFrom, h]

/-- A value that has been found begins on the line of its definition or on the next. -/
theorem definedValue_cases {name value : Text} {rest : List Line} {result : Text × List Line}
    (h : definedValue name value rest = .ok result) :
    value ≠ [] ∧ result = valueFrom value rest ∨
      value = [] ∧ ∃ next lines, rest = next :: lines ∧ result = valueFrom next.text lines := by
  by_cases hvalue : value = []
  · subst hvalue
    cases rest with
    | nil => simp at h
    | cons next lines => exact Or.inr ⟨rfl, next, lines, rfl, (Except.ok.inj h).symm⟩
  · rw [definedValue_of_ne_nil hvalue, Except.ok.injEq] at h
    exact Or.inl ⟨hvalue, h.symm⟩

/-- What is left behind a value are the last lines. -/
theorem valueFrom_suffix (text : Text) (rest : List Line) : (valueFrom text rest).2 <:+ rest := by
  unfold valueFrom
  split
  · exact blockLines_suffix rest
  · exact List.suffix_refl rest

/-- What is left behind a definition are the last lines. -/
theorem definedValue_suffix {name value : Text} {rest : List Line} {result : Text × List Line}
    (h : definedValue name value rest = .ok result) : result.2 <:+ rest := by
  rcases definedValue_cases h with ⟨-, rfl⟩ | ⟨-, next, lines, rfl, rfl⟩
  · exact valueFrom_suffix value rest
  · exact (valueFrom_suffix next.text lines).trans (List.suffix_cons next lines)

/-- What is left behind a statement are the last lines. -/
theorem Binds.suffix {bindings after : Bindings} {rest left : List Line}
    {statement : Option Statement} (h : Binds bindings rest statement after left) :
    left <:+ rest := by
  cases h with
  | define hdefined => exact definedValue_suffix hdefined
  | keep => exact List.suffix_refl rest

/-- A visit leaves lines that have been left before. -/
theorem rest_suffix {state : State} {line : Line} {rest : List Line} {passage : Passage}
    (h : visitLine state line rest = .ok passage) : passage.rest <:+ rest := by
  rcases visitLine_ok h with ⟨statement, hpassed⟩
  exact hpassed.binds.suffix

/-! ## Several visits -/

/-- A scan passes from a state and the lines left there to another through a list
of visits. -/
inductive Steps : State → List Line → List Visit → State → List Line → Prop where
  | refl (state : State) (lines : List Line) : Steps state lines [] state lines
  | cons {state after : State} {line : Line} {rest left : List Line} {visits : List Visit}
      {passage : Passage} (h : visitLine state line rest = .ok passage)
      (later : Steps passage.after passage.rest visits after left) :
      Steps state (line :: rest) (passage.visit :: visits) after left

namespace Steps

variable {state middle after : State} {lines between left rest : List Line} {line : Line}
  {visits more : List Visit} {passage : Passage}

/-- One visit is a stretch of steps. -/
theorem single (h : visitLine state line rest = .ok passage) :
    Steps state (line :: rest) [passage.visit] passage.after passage.rest :=
  .cons h (.refl passage.after passage.rest)

/-- Two stretches, one where the other ends, are one. -/
theorem append (first : Steps state lines visits middle between)
    (second : Steps middle between more after left) :
    Steps state lines (visits ++ more) after left := by
  induction first with
  | refl => exact second
  | cons h _ ih => exact .cons h (ih second)

/-- A scan goes on from where its steps have led. -/
theorem run_eq (h : Steps state lines visits after left) :
    run state lines = ⟨visits ++ (run after left).visits, (run after left).failure⟩ := by
  induction h with
  | refl => rfl
  | cons h _ ih => rw [run_cons_of_ok h, ih]; rfl

/-- What holds at the start and is kept by each visit, a scan keeps.  The rule may
speak of the visits so far. -/
theorem preserves (rule : List Visit → State → Prop) (hstart : rule [] state)
    (hstep : ∀ {visits : List Visit} {state : State} {line : Line} {rest : List Line}
      {passage : Passage}, rule visits state → visitLine state line rest = .ok passage →
        rule (visits ++ [passage.visit]) passage.after)
    (h : Steps state lines visits after left) : rule visits after := by
  have hkeeps : ∀ earlier, rule earlier state → rule (earlier ++ visits) after := by
    clear hstart
    induction h with
    | refl =>
      intro earlier hrule
      simpa using hrule
    | cons hvisit _ ih =>
      intro earlier hrule
      have hnext := ih _ (hstep hrule hvisit)
      simpa using hnext
  exact hkeeps [] hstart

/-- What is left behind a stretch are the last lines. -/
theorem suffix (h : Steps state lines visits after left) : left <:+ lines := by
  induction h with
  | refl => exact List.suffix_refl _
  | cons h _ ih => exact ih.trans ((rest_suffix h).trans (List.suffix_cons _ _))

end Steps

/-- The visit of a line, also when it fails. -/
def visited (state : State) (line : Line) (rest : List Line) : Visit :=
  match visitLine state line rest with
  | .ok passage => passage.visit
  | .error (visit, _) => visit

/-- The visit of a line that is read is the one that the step records. -/
theorem visited_of_ok {state : State} {line : Line} {rest : List Line} {passage : Passage}
    (h : visitLine state line rest = .ok passage) : visited state line rest = passage.visit := by
  simp [visited, h]

/-- The visit of a line that can not be read is recorded as well. -/
theorem visited_of_error {state : State} {line : Line} {rest : List Line} {visit : Visit}
    {reason : Malformation} (h : visitLine state line rest = .error (visit, reason)) :
    visited state line rest = visit := by
  simp [visited, h]

@[simp]
theorem visited_before (state : State) (line : Line) (rest : List Line) :
    (visited state line rest).before = state := by
  cases h : visitLine state line rest with
  | ok passage =>
    rcases visitLine_ok h with ⟨statement, hpassed⟩
    rw [visited_of_ok h, hpassed.visit]
  | error failed =>
    rcases failed with ⟨visit, reason⟩
    rw [visited_of_error h]
    exact (visitLine_error h).1

@[simp]
theorem visited_line (state : State) (line : Line) (rest : List Line) :
    (visited state line rest).line = line := by
  cases h : visitLine state line rest with
  | ok passage =>
    rcases visitLine_ok h with ⟨statement, hpassed⟩
    rw [visited_of_ok h, hpassed.visit]
  | error failed =>
    rcases failed with ⟨visit, reason⟩
    rw [visited_of_error h]
    exact (visitLine_error h).2.1

/-- A visit has read its line, also when it fails. -/
@[simp]
theorem visited_reading (state : State) (line : Line) (rest : List Line) :
    (visited state line rest).reading =
      Statement.ofText (state.bindings.substitute line.text) line.text := by
  cases hread : Statement.ofText (state.bindings.substitute line.text) line.text with
  | error reason => simp [visited, visitLine, hread]
  | ok statement =>
    cases heffect : effect state (state.bindings.substitute line.text) statement rest <;>
      simp [visited, visitLine, hread, heffect]

/-- The statement of a visit is read from the line with its variables replaced. -/
theorem reads_of_statement? {state : State} {line : Line} {rest : List Line} {stated : Statement}
    (h : (visited state line rest).statement? = some stated) :
    Statement.ofText (state.bindings.substitute line.text) line.text = .ok (some stated) := by
  rw [Visit.statement?, visited_reading] at h
  split at h
  · rename_i statement hread
    rw [hread, h]
  · simp at h

/-- A visit that emits a request has completed it. -/
theorem exists_passed_of_emitted {state : State} {line : Line} {rest : List Line}
    {request : Request} (h : (visited state line rest).emitted = some request) :
    ∃ passage statement, visitLine state line rest = .ok passage ∧
      Passed state line rest passage statement ∧
      (drafted state (state.bindings.substitute line.text) statement).isComplete = true ∧
      request = (drafted state (state.bindings.substitute line.text) statement).toRequest := by
  cases hvisit : visitLine state line rest with
  | ok passage =>
    rcases visitLine_ok hvisit with ⟨statement, hpassed⟩
    rw [visited_of_ok hvisit, hpassed.emitted] at h
    dsimp only at h
    split at h
    · rename_i hcomplete
      exact ⟨passage, statement, rfl, hpassed, hcomplete, (Option.some.inj h).symm⟩
    · simp at h
  | error failed =>
    rcases failed with ⟨visit, reason⟩
    rcases visitLine_error hvisit with ⟨-, -, hsilent, -⟩
    rw [visited_of_error hvisit, hsilent] at h
    simp at h

/-- Every recorded visit has been reached by steps. -/
theorem exists_steps_of_visits {state : State} {lines : List Line} {earlier later : List Visit}
    {visit : Visit} (h : (run state lines).visits = earlier ++ visit :: later) :
    ∃ here line rest, Steps state lines earlier here (line :: rest) ∧
      visit = visited here line rest := by
  induction earlier generalizing state lines with
  | nil =>
    cases lines with
    | nil => simp at h
    | cons line rest =>
      refine ⟨state, line, rest, .refl state (line :: rest), ?_⟩
      cases hvisit : visitLine state line rest with
      | ok passage =>
        rw [run_cons_of_ok hvisit] at h
        have hhead : passage.visit = visit := (List.cons.inj h).1
        rw [visited_of_ok hvisit, hhead]
      | error failed =>
        rw [run_cons_of_error hvisit] at h
        have hhead : failed.1 = visit := (List.cons.inj h).1
        rw [visited_of_error hvisit, hhead]
  | cons first earlier ih =>
    cases lines with
    | nil => simp at h
    | cons line rest =>
      cases hvisit : visitLine state line rest with
      | ok passage =>
        rw [run_cons_of_ok hvisit] at h
        rcases List.cons.inj h with ⟨rfl, htail⟩
        rcases ih htail with ⟨here, next, left, hsteps, heq⟩
        exact ⟨here, next, left, .cons hvisit hsteps, heq⟩
      | error failed =>
        rw [run_cons_of_error hvisit] at h
        simp at h

/-! ## Reachable states -/

/-- The scan of a script arrives at a state with the given lines left. -/
def Reaches (content : Text) (state : State) (lines : List Line) : Prop :=
  ∃ visits, Steps {} (Script.lines content) visits state lines

/-- Every recorded visit of a script starts from a reachable state. -/
theorem exists_reaches_of_mem_visits {content : Text} {visit : Visit}
    (h : visit ∈ (Script.scan content).visits) :
    ∃ state line rest, Reaches content state (line :: rest) ∧ visit = visited state line rest := by
  rcases List.append_of_mem h with ⟨earlier, later, hvisits⟩
  rcases exists_steps_of_visits hvisits with ⟨state, line, rest, hsteps, heq⟩
  exact ⟨state, line, rest, ⟨earlier, hsteps⟩, heq⟩

/-- Every request of a script has been completed in a reachable state. -/
theorem exists_reaches_of_mem_requests {content : Text} {request : Request}
    (h : request ∈ (Script.scan content).requests) :
    ∃ state line rest, Reaches content state (line :: rest) ∧
      (visited state line rest).emitted = some request := by
  rcases List.mem_filterMap.mp h with ⟨visit, hvisit, hemitted⟩
  rcases exists_reaches_of_mem_visits hvisit with ⟨state, line, rest, hreach, rfl⟩
  exact ⟨state, line, rest, hreach, hemitted⟩

namespace Reaches

variable {content : Text} {state : State} {lines : List Line}

/-- What holds at the start and is kept by every visit holds in every reachable
state. -/
theorem preserves (rule : State → Prop) (hstart : rule {})
    (hstep : ∀ {state : State} {line : Line} {rest : List Line} {passage : Passage},
      rule state → visitLine state line rest = .ok passage → rule passage.after)
    (h : Reaches content state lines) : rule state := by
  rcases h with ⟨visits, hsteps⟩
  exact hsteps.preserves (fun _ => rule) hstart fun hrule hvisit => hstep hrule hvisit

/-- No reachable state holds a complete request. -/
theorem isComplete (h : Reaches content state lines) : state.draft.isComplete = false :=
  h.preserves (fun state => state.draft.isComplete = false) rfl
    fun _ hvisit => isComplete_after hvisit

/-- The variables of a script have proper names. -/
theorem named (h : Reaches content state lines) : state.bindings.Named := by
  apply h.preserves (fun state => state.bindings.Named) Bindings.named_empty
  intro state line rest passage hnamed hvisit
  rcases visitLine_ok hvisit with ⟨statement, hpassed⟩
  exact hpassed.binds.named hnamed hpassed.sound

end Reaches

end Scan
end RequestScript
