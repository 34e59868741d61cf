import RequestScript.Proofs.Scan.Steps

/-!
# Newlines in requests

No line of a script holds a newline, and yet a newline can get into a request: a block
gives its variable a value of several lines, and the variable may be used where a base
address, a path or the value of a header or a parameter is given.  This is the only way.
A statement gives only what stands on its line, and a substituted line has its newlines
from the values of variables.

Main results:

- Definition {lit}`Request.OneLine`: what a request fulfils that no newline has got into.
- Theorem {lit}`oneLine_drafted`: a statement that gives no newline lets none into the
  request in progress.
- Theorem {lit}`exists_breaks_of_not_oneLine`: the line and the variable that a newline in a
  request comes from.
-/

namespace RequestScript

open Text

/-! ## Lines and what they give -/

/-- Every line is a text, trimmed. -/
theorem Script.exists_trim_of_mem_linesFrom {index : Nat} {texts : List Text} {line : Line}
    (h : line ∈ linesFrom index texts) : ∃ raw ∈ texts, line.text = trim raw := by
  induction texts generalizing index with
  | nil => simp at h
  | cons raw texts ih =>
    rcases List.mem_cons.mp h with rfl | hlater
    · exact ⟨raw, List.mem_cons_self, rfl⟩
    · rcases ih hlater with ⟨found, hfound, htext⟩
      exact ⟨found, List.mem_cons_of_mem raw hfound, htext⟩

/-- No line of a script holds a newline. -/
theorem Script.newline_not_mem_text {content : Text} {line : Line} (h : line ∈ lines content) :
    '\n' ∉ line.text := by
  rcases exists_trim_of_mem_linesFrom h with ⟨raw, hraw, htext⟩
  intro hmem
  rw [htext] at hmem
  have hother := (mem_of_mem_splitOnP hraw '\n' (mem_of_mem_strip hmem)).2
  simp at hother

/-- What stands before the last quote is part of the text. -/
theorem Literal.mem_of_beforeLast {quote c : Char} {text front : Text}
    (h : beforeLast quote text = some front) (hc : c ∈ front) : c ∈ text := by
  rcases Option.map_eq_some_iff.mp h with ⟨after, hafter, rfl⟩
  exact List.mem_reverse.mp (mem_of_mem_splitAtFirst_snd hafter (List.mem_reverse.mp hc))

/-- What stands between quotes is part of the line. -/
theorem Literal.mem_of_mem_quotedPart {line : Text} {c : Char} (h : c ∈ quotedPart line) :
    c ∈ line := by
  unfold quotedPart at h
  dsimp only at h
  split at h
  · simp at h
  · rename_i rest hrest
    rcases Option.eq_none_or_eq_some
      (beforeLast (if line.contains '\'' then '\'' else '"') rest) with hnone | ⟨front, hfront⟩
    · rw [hnone] at h
      simp at h
    · rw [hfront] at h
      exact mem_of_mem_splitAtFirst_snd hrest (mem_of_beforeLast hfront h)

/-- Removing quotes brings no characters into a value. -/
theorem Literal.mem_of_mem_removeQuotes {value : Text} {c : Char} (h : c ∈ removeQuotes value) :
    c ∈ value :=
  mem_of_mem_strip (List.mem_filter.mp h).1

namespace Statement

/-- What a statement gives to a part of a request that a command quotes as it is: a base
address, a path, or the value of a header or a parameter. -/
def given? : Statement → Option Text
  | .url _ value => some value
  | .path _ value => some value
  | .header _ _ value => some value
  | .param _ _ value => some value
  | .boundary _ | .definition .. | .method .. | .request .. => none

/-- A statement gives nothing but characters of its line. -/
theorem mem_text_of_given {text written given : Text} {statement : Statement}
    (h : ofText text written = .ok (some statement)) (hgiven : statement.given? = some given)
    {c : Char} (hc : c ∈ given) : c ∈ text := by
  have hvalue : ∀ {name value : Text}, fullAssignment text = .ok (name, value) →
      c ∈ Literal.removeQuotes value → c ∈ text := fun hread hmem =>
    mem_of_mem_splitAtFirst_snd (fullAssignment_eq_ok.mp hread).2
      (Literal.mem_of_mem_removeQuotes hmem)
  rcases parts_of_ofText h with ⟨-, rfl⟩ | ⟨leader, keyword, hparts⟩
  · simp [given?] at hgiven
  · cases hparts with
    | define | method | request => simp [given?] at hgiven
    | url | path =>
      obtain rfl : Literal.quotedPart text = given := by simpa [given?] using hgiven
      exact Literal.mem_of_mem_quotedPart hc
    | header hread | param hread =>
      rw [given?, Option.some.injEq] at hgiven
      exact hvalue hread (hgiven ▸ hc)

end Statement

/-! ## Requests on one line -/

/-- No value of a map holds a newline. -/
def Unbroken (m : OrderedMap Text Text) : Prop :=
  ∀ entry ∈ m.entries, '\n' ∉ entry.2

namespace Unbroken

variable {m : OrderedMap Text Text} {value : Text}

theorem empty : Unbroken ∅ := by
  simp [Unbroken]

/-- A map stays unbroken when a value without newlines is written. -/
theorem insert (h : Unbroken m) (name : Text) (hvalue : '\n' ∉ value) :
    Unbroken (m.insert name value) :=
  OrderedMap.forall_mem_insert h hvalue

/-- A map stays unbroken when a new key gets a value without newlines. -/
theorem insertNew (h : Unbroken m) (name : Text) (hvalue : '\n' ∉ value) :
    Unbroken (m.insertNew name value) := by
  unfold OrderedMap.insertNew
  split
  · exact h
  · exact h.insert name hvalue

end Unbroken

/-- The parts of a request that a command quotes as they are hold no newline. -/
structure Request.OneLine (request : Request) : Prop where
  baseUrl : '\n' ∉ request.baseUrl
  path : '\n' ∉ request.path
  headers : Unbroken request.headers
  params : Unbroken request.params

/-- A request in progress into which no newline has got. -/
abbrev Draft.OneLine (draft : Draft) : Prop :=
  draft.toRequest.OneLine

namespace Draft.OneLine

variable {draft : Draft} {name value : Text}

/-- A draft on one line stays so when it is reset. -/
theorem reset (h : draft.OneLine) : draft.reset.OneLine :=
  ⟨h.baseUrl, List.not_mem_nil, Unbroken.empty, Unbroken.empty⟩

/-- A draft on one line stays so when a scenario starts. -/
theorem startScenario (h : draft.OneLine) : draft.startScenario.OneLine :=
  ⟨h.baseUrl, List.not_mem_nil, Unbroken.empty, Unbroken.empty⟩

/-- The headers that a method brings along stand on one line. -/
theorem setMethod (h : draft.OneLine) (method : Text) : (draft.setMethod method).OneLine := by
  have hjson : '\n' ∉ jsonMediaType := by decide
  refine ⟨h.baseUrl, h.path, ?_, h.params⟩
  show Unbroken (draft.setMethod method).headers
  unfold Draft.setMethod
  dsimp only
  split
  · exact (h.headers.insertNew _ hjson).insertNew _ hjson
  · exact h.headers.insertNew _ hjson

end Draft.OneLine

namespace Scan

/-- A draft on one line stays so when its method is dropped before a line. -/
theorem oneLine_beforeEffect {draft : Draft} (h : draft.OneLine) (text : Text) :
    (beforeEffect draft text).OneLine := by
  unfold beforeEffect
  split
  · exact h.reset
  · exact h

/-- A statement that gives no newline lets none into the request in progress. -/
theorem oneLine_drafted {state : State} (h : state.draft.OneLine) (text : Text)
    {statement : Option Statement}
    (hgiven : ∀ stated given, statement = some stated → stated.given? = some given →
      '\n' ∉ given) : (drafted state text statement).OneLine := by
  have hbefore := oneLine_beforeEffect h text
  cases statement with
  | none => exact hbefore
  | some stated =>
    have hstated := fun given => hgiven stated given rfl
    cases stated with
    | boundary mark => exact h.startScenario
    | definition leader name value => exact hbefore
    | url leader url => exact ⟨hstated url rfl, hbefore.path, hbefore.headers, hbefore.params⟩
    | path leader path => exact ⟨hbefore.baseUrl, hstated path rfl, hbefore.headers, hbefore.params⟩
    | header leader name value =>
      exact ⟨hbefore.baseUrl, hbefore.path, hbefore.headers.insert name (hstated value rfl),
        hbefore.params⟩
    | method leader given => exact hbefore.setMethod given
    | param leader name value =>
      exact ⟨hbefore.baseUrl, hbefore.path, hbefore.headers,
        hbefore.params.insert name (hstated value rfl)⟩
    | request leader name =>
      cases hvalue : state.bindings.value? name with
      | none =>
        rw [drafted_request_of_none state text leader name hvalue]
        exact hbefore
      | some body =>
        -- a body is not quoted as it is
        rw [drafted_request_of_some state text leader name hvalue]
        exact ⟨hbefore.baseUrl, hbefore.path, hbefore.headers, hbefore.params⟩

/-! ## Where newlines come from -/

/-- A visit gives a part of a request a text with a newline. -/
def Visit.Breaks (visit : Visit) : Prop :=
  ∃ stated given, visit.statement? = some stated ∧ stated.given? = some given ∧ '\n' ∈ given

/-- A visit that gives a newline has found it in the value of a variable. -/
theorem not_unbroken_of_breaks {state : State} {line : Line} {rest : List Line}
    (hline : '\n' ∉ line.text) (h : (visited state line rest).Breaks) :
    ¬ Unbroken state.bindings := by
  rcases h with ⟨stated, given, hstated, hgiven, hnewline⟩
  have htext := Statement.mem_text_of_given (reads_of_statement? hstated) hgiven hnewline
  rcases Bindings.mem_of_mem_substitute htext with hwritten | ⟨entry, hentry, hvalue⟩
  · exact absurd hwritten hline
  · exact fun hunbroken => hunbroken entry hentry hvalue

/-- A newline has got into the request in progress only where a visit has given it. -/
theorem Steps.oneLine_or_breaks {content : Text} {visits : List Visit} {state : State}
    {left : List Line} (h : Steps {} (Script.lines content) visits state left) :
    state.draft.OneLine ∨ ∃ visit ∈ visits, visit.Breaks := by
  have hstart : ({} : State).draft.OneLine :=
    ⟨List.not_mem_nil, List.not_mem_nil, Unbroken.empty, Unbroken.empty⟩
  apply h.preserves (fun visits state => state.draft.OneLine ∨ ∃ visit ∈ visits, visit.Breaks)
    (Or.inl hstart)
  intro visits state line rest passage hrule hvisit
  rcases hrule with honeLine | ⟨visit, hmem, hbreaks⟩
  · by_cases hbreaks : passage.visit.Breaks
    · exact Or.inr ⟨passage.visit, by simp, hbreaks⟩
    · rcases visitLine_ok hvisit with ⟨statement, hpassed⟩
      have hdrafted := oneLine_drafted honeLine (state.bindings.substitute line.text)
        fun stated given hstated hgiven hnewline =>
          hbreaks ⟨stated, given, hpassed.statement?_eq.trans hstated, hgiven, hnewline⟩
      left
      rw [hpassed.draft]
      dsimp only
      split
      · exact hdrafted.reset
      · exact hdrafted
  · exact Or.inr ⟨visit, List.mem_append_left _ hmem, hbreaks⟩

/-- A newline in a request comes from a line that has given it, where the value of a
variable held it. -/
theorem exists_breaks_of_not_oneLine {content : Text} {request : Request}
    (h : request ∈ (Script.scan content).requests) (hnot : ¬ request.OneLine) :
    ∃ visit ∈ (Script.scan content).visits, visit.Breaks ∧ ¬ Unbroken visit.before.bindings := by
  have hbreaks : ∃ visit ∈ (Script.scan content).visits, visit.Breaks := by
    rcases List.mem_filterMap.mp h with ⟨visit, hvisit, hemitted⟩
    rcases List.append_of_mem hvisit with ⟨earlier, later, hvisits⟩
    rcases exists_steps_of_visits hvisits with ⟨state, line, rest, hsteps, rfl⟩
    rcases exists_passed_of_emitted hemitted with ⟨passage, statement, hok, hpassed, -, rfl⟩
    rcases hsteps.oneLine_or_breaks with honeLine | ⟨found, hfound, hbreaks⟩
    · refine ⟨visited state line rest, hvisit, ?_⟩
      by_contra hunbroken
      refine hnot (oneLine_drafted honeLine _ fun stated given hstated hgiven hnewline => ?_)
      rw [visited_of_ok hok] at hunbroken
      exact hunbroken ⟨stated, given, hpassed.statement?_eq.trans hstated, hgiven, hnewline⟩
    · exact ⟨found, hvisits ▸ List.mem_append_left _ hfound, hbreaks⟩
  rcases hbreaks with ⟨visit, hvisit, hbreaks⟩
  refine ⟨visit, hvisit, hbreaks, ?_⟩
  rcases exists_reaches_of_mem_visits hvisit with ⟨state, line, rest, ⟨visits, hsteps⟩, rfl⟩
  rw [visited_before]
  exact not_unbroken_of_breaks
    (Script.newline_not_mem_text (hsteps.suffix.subset List.mem_cons_self)) hbreaks

end Scan
end RequestScript
