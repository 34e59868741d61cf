import RequestScript.Proofs.Scan.Steps
import RequestScript.Proofs.Text.Case

/-!
# Where a scan emits

Between two visits no request is complete: a method that is waiting means that no
base address is known.  A visit therefore emits in two cases only.  It gives a
method while a base address is known, or it gives a base address while a method is
waiting and is not dropped at that very line.

Main results:

- Theorem {lit}`isComplete_drafted_iff`: which statements complete a request.
- Theorem {lit}`visits_emit_iff`: which visits of a script emit, and that with a
  base address known there is one request for each method.
-/

namespace RequestScript
namespace Scan

/-! ## Dropping the request in progress -/

/-- A line goes on with a pending draft when the scenario is fresh, the line begins with {lit}`And`,
and a method is pending. -/
theorem continuesPending_iff (draft : Draft) (text : Text) :
    continuesPending draft text = true ↔
      draft.freshScenario = true ∧ Text.firstWord text = Leader.also.spelling ∧
        draft.method ≠ [] := by
  simp [continuesPending, and_assoc]

@[simp]
theorem beforeEffect_baseUrl (draft : Draft) (text : Text) :
    (beforeEffect draft text).baseUrl = draft.baseUrl := by
  unfold beforeEffect
  split <;> rfl

/-- A line that goes on with a pending draft resets it. -/
theorem beforeEffect_of_continuesPending {draft : Draft} {text : Text}
    (h : continuesPending draft text = true) : beforeEffect draft text = draft.reset :=
  if_pos h

/-- Every other line finds the draft as it is. -/
theorem beforeEffect_of_not_continuesPending {draft : Draft} {text : Text}
    (h : continuesPending draft text = false) : beforeEffect draft text = draft := by
  simp [beforeEffect, h]

/-- Before a line takes effect no request is complete, whether the line drops the
one in progress or not. -/
theorem isComplete_beforeEffect {draft : Draft} (h : draft.isComplete = false) (text : Text) :
    (beforeEffect draft text).isComplete = false := by
  unfold beforeEffect
  split
  · rfl
  · exact h

/-- A waiting method means that no base address is known. -/
theorem baseUrl_eq_nil_of_method {draft : Draft} (h : draft.isComplete = false)
    (hmethod : draft.method ≠ []) : draft.baseUrl = [] := by
  by_contra hbase
  have hcomplete := (Draft.isComplete_iff draft).mpr ⟨hmethod, hbase⟩
  simp [hcomplete] at h

/-- A line drops a request only while no base address is known. -/
theorem baseUrl_eq_nil_of_continuesPending {draft : Draft} (h : draft.isComplete = false)
    {text : Text} (hdrop : continuesPending draft text = true) : draft.baseUrl = [] :=
  baseUrl_eq_nil_of_method h ((continuesPending_iff draft text).mp hdrop).2.2

/-! ## Completing a request -/

/-- Only a method or a base address can complete a request. -/
theorem isComplete_drafted_of_other {state : State} (hstate : state.draft.isComplete = false)
    (text : Text) {statement : Option Statement}
    (hmethod : ∀ leader given, statement ≠ some (.method leader given))
    (hurl : ∀ leader given, statement ≠ some (.url leader given)) :
    (drafted state text statement).isComplete = false := by
  have hbefore := isComplete_beforeEffect hstate text
  cases statement with
  | none => exact hbefore
  | some stated =>
    cases stated with
    | boundary line => rfl
    | definition leader name value => exact hbefore
    | url leader given => exact absurd rfl (hurl leader given)
    | path leader path => exact hbefore
    | header leader name value => exact hbefore
    | method leader given => exact absurd rfl (hmethod leader given)
    | param leader name value => exact hbefore
    | request leader name =>
      cases hvalue : state.bindings.value? name with
      | some body => rw [drafted_request_of_some state text leader name hvalue]; exact hbefore
      | none => rw [drafted_request_of_none state text leader name hvalue]; exact hbefore

/-- A method completes a request if a base address is known. -/
theorem isComplete_drafted_method_iff (state : State) (text : Text) (leader : Leader)
    {given : Text} (hgiven : given ≠ []) :
    (drafted state text (some (.method leader given))).isComplete = true ↔
      state.draft.baseUrl ≠ [] := by
  rw [Draft.isComplete_iff]
  simp [Text.upper_ne_nil hgiven]

/-- A base address completes a request if it is not empty and a method is waiting
that the line does not drop. -/
theorem isComplete_drafted_url_iff (state : State) (text : Text) (leader : Leader) (url : Text) :
    (drafted state text (some (.url leader url))).isComplete = true ↔
      url ≠ [] ∧ state.draft.method ≠ [] ∧
        ¬ (state.draft.freshScenario = true ∧
          Text.firstWord text = Leader.also.spelling) := by
  rw [Draft.isComplete_iff, drafted_url, Draft.setBaseUrl_method, Draft.setBaseUrl_baseUrl]
  cases hdrop : continuesPending state.draft text with
  | true =>
    have hwhy := (continuesPending_iff state.draft text).mp hdrop
    rw [beforeEffect_of_continuesPending hdrop]
    simp [hwhy.1, hwhy.2.1]
  | false =>
    rw [beforeEffect_of_not_continuesPending hdrop]
    constructor
    · rintro ⟨hmethod, hurl⟩
      refine ⟨hurl, hmethod, fun h => ?_⟩
      have hwhy := (continuesPending_iff state.draft text).mpr ⟨h.1, h.2, hmethod⟩
      simp [hwhy] at hdrop
    · rintro ⟨hurl, hmethod, -⟩
      exact ⟨hmethod, hurl⟩

/-- A statement completes a request if it gives a method to a known base address, or
a base address to a method that is waiting and stays. -/
theorem isComplete_drafted_iff {state : State} (hstate : state.draft.isComplete = false)
    (text : Text) {statement : Option Statement}
    (hsound : ∀ stated, statement = some stated → stated.Sound) :
    (drafted state text statement).isComplete = true ↔
      (∃ leader given, statement = some (.method leader given)) ∧ state.draft.baseUrl ≠ [] ∨
        ∃ leader url, statement = some (.url leader url) ∧ url ≠ [] ∧ state.draft.method ≠ [] ∧
          ¬ (state.draft.freshScenario = true ∧
            Text.firstWord text = Leader.also.spelling) := by
  by_cases hmethod : ∃ leader given, statement = some (.method leader given)
  · rcases hmethod with ⟨leader, given, rfl⟩
    have hgiven : given ≠ [] := by
      rcases hsound _ rfl with ⟨word, hword, rfl⟩
      exact Text.upper_ne_nil hword.1
    rw [isComplete_drafted_method_iff state text leader hgiven]
    simp
  · by_cases hurl : ∃ leader given, statement = some (.url leader given)
    · rcases hurl with ⟨leader, url, rfl⟩
      rw [isComplete_drafted_url_iff state text leader url]
      constructor
      · intro h
        exact Or.inr ⟨leader, url, rfl, h⟩
      · rintro (⟨h, -⟩ | ⟨found, given, heq, h⟩)
        · exact absurd h hmethod
        · simp only [Option.some.injEq, Statement.url.injEq] at heq
          rw [heq.2]
          exact h
    · have hother := isComplete_drafted_of_other hstate text
        (fun leader given h => hmethod ⟨leader, given, h⟩)
        (fun leader given h => hurl ⟨leader, given, h⟩)
      rw [hother]
      constructor
      · simp
      · rintro (⟨h, -⟩ | ⟨leader, given, h, -⟩)
        · exact absurd h hmethod
        · exact absurd ⟨leader, given, h⟩ hurl

/-! ## The visits of a script -/

/-- A visit gives a method exactly when it reads a method line with it. -/
theorem method?_eq_some_iff (visit : Visit) (method : Text) :
    visit.method? = some method ↔ ∃ leader, visit.statement? = some (.method leader method) := by
  unfold Visit.method?
  split
  · rename_i leader given h
    simp [h, eq_comm]
  · rename_i h
    simpa using fun leader => h leader method

/-- A visit gives a method exactly when it reads a method line. -/
theorem isSome_method?_iff (visit : Visit) :
    visit.method?.isSome = true ↔
      ∃ leader given, visit.statement? = some (.method leader given) := by
  simp only [Option.isSome_iff_exists, method?_eq_some_iff]
  exact exists_comm

/-- A visit gives a base address exactly when it reads a line with it. -/
theorem url?_eq_some_iff (visit : Visit) (url : Text) :
    visit.url? = some url ↔ ∃ leader, visit.statement? = some (.url leader url) := by
  unfold Visit.url?
  split
  · rename_i leader given h
    simp [h, eq_comm]
  · rename_i h
    simpa using fun leader => h leader url

/-- Which visits emit, seen from the state before them. -/
theorem isSome_emitted_visited_iff {content : Text} {state : State} {line : Line}
    {rest : List Line} (h : Reaches content state (line :: rest)) :
    (visited state line rest).emitted.isSome = true ↔
      (visited state line rest).method?.isSome = true ∧ state.draft.baseUrl ≠ [] ∨
        ∃ url, (visited state line rest).url? = some url ∧ url ≠ [] ∧ state.draft.method ≠ [] ∧
          ¬ (state.draft.freshScenario = true ∧ (visited state line rest).continues) := by
  simp only [isSome_method?_iff, url?_eq_some_iff]
  cases hvisit : visitLine state line rest with
  | ok passage =>
    rcases visitLine_ok hvisit with ⟨statement, hpassed⟩
    have hcomplete := isComplete_drafted_iff h.isComplete
      (state.bindings.substitute line.text) hpassed.sound
    have hemitted : passage.visit.emitted.isSome =
        (drafted state (state.bindings.substitute line.text) statement).isComplete := by
      rw [hpassed.emitted]
      dsimp only
      split <;> simp_all
    rw [visited_of_ok hvisit, hemitted, hpassed.statement?_eq, hcomplete, Visit.continues,
      hpassed.text_eq]
    constructor
    · rintro (hmethod | ⟨leader, url, hurl, hrest⟩)
      · exact Or.inl hmethod
      · exact Or.inr ⟨url, ⟨leader, hurl⟩, hrest⟩
    · rintro (hmethod | ⟨url, ⟨leader, hurl⟩, hrest⟩)
      · exact Or.inl hmethod
      · exact Or.inr ⟨leader, url, hurl, hrest⟩
  | error failed =>
    rcases failed with ⟨visit, reason⟩
    rcases visitLine_error hvisit with ⟨-, -, hemitted, hstatement⟩
    rw [visited_of_error hvisit]
    rcases hstatement with hnone | ⟨leader, name, value, hdefinition⟩
    · simp [hemitted, hnone]
    · simp [hemitted, hdefinition]

end Scan

open Scan

/-- No request is complete before a visit.  A visit emits exactly if it gives a
method while a base address is known, or a non-empty base address while a method is
waiting that the line does not drop.  While a base address is known, a scan emits
one request for each method, and no line drops anything. -/
theorem visits_emit_iff (content : Text) :
    (∀ visit ∈ (Script.scan content).visits,
      (visit.before.draft.method = [] ∨ visit.before.draft.baseUrl = []) ∧
      (visit.emitted.isSome = true ↔
        visit.method?.isSome = true ∧ visit.before.draft.baseUrl ≠ [] ∨
          ∃ url, visit.url? = some url ∧ url ≠ [] ∧ visit.before.draft.method ≠ [] ∧
            ¬ (visit.before.draft.freshScenario = true ∧ visit.continues)) ∧
      (continuesPending visit.before.draft visit.text = true → visit.before.draft.baseUrl = [])) ∧
    ∀ earlier stretch later, (Script.scan content).visits = earlier ++ stretch ++ later →
      (∀ visit ∈ stretch, visit.before.draft.baseUrl ≠ []) →
        (stretch.filterMap Visit.emitted).length = stretch.countP (·.method?.isSome) ∧
          ∀ visit ∈ stretch, beforeEffect visit.before.draft visit.text = visit.before.draft := by
  have hvisits : ∀ visit ∈ (Script.scan content).visits,
      visit.before.draft.isComplete = false ∧
      (visit.emitted.isSome = true ↔
        visit.method?.isSome = true ∧ visit.before.draft.baseUrl ≠ [] ∨
          ∃ url, visit.url? = some url ∧ url ≠ [] ∧ visit.before.draft.method ≠ [] ∧
            ¬ (visit.before.draft.freshScenario = true ∧ visit.continues)) := by
    intro visit hvisit
    rcases exists_reaches_of_mem_visits hvisit with ⟨state, line, rest, hreach, rfl⟩
    rw [visited_before]
    exact ⟨hreach.isComplete, isSome_emitted_visited_iff hreach⟩
  constructor
  · intro visit hvisit
    have hfacts := hvisits visit hvisit
    refine ⟨?_, hfacts.2, fun hdrop => baseUrl_eq_nil_of_continuesPending hfacts.1 hdrop⟩
    by_cases hmethod : visit.before.draft.method = []
    · exact Or.inl hmethod
    · exact Or.inr (baseUrl_eq_nil_of_method hfacts.1 hmethod)
  · intro earlier stretch later hscan hbase
    have hmem : ∀ visit ∈ stretch, visit ∈ (Script.scan content).visits := by
      intro visit hvisit
      rw [hscan]
      exact List.mem_append_left later (List.mem_append_right earlier hvisit)
    constructor
    · rw [List.length_filterMap_eq_countP]
      refine List.countP_congr fun visit hvisit => ?_
      have hfacts := hvisits visit (hmem visit hvisit)
      rw [hfacts.2]
      constructor
      · rintro (hmethod | ⟨url, -, -, hmethod, -⟩)
        · exact hmethod.1
        · -- a method can not be waiting here
          exact absurd (baseUrl_eq_nil_of_method hfacts.1 hmethod) (hbase visit hvisit)
      · intro hmethod
        exact Or.inl ⟨hmethod, hbase visit hvisit⟩
    · intro visit hvisit
      have hfacts := hvisits visit (hmem visit hvisit)
      apply beforeEffect_of_not_continuesPending
      rw [Bool.eq_false_iff]
      intro hdrop
      exact hbase visit hvisit (baseUrl_eq_nil_of_continuesPending hfacts.1 hdrop)

/-- A script with one base address and two methods. -/
def twoMethods : Text :=
  "* url 'u'\n* method get\nAnd method put".toList

theorem visits_emit_iff_twoMethods :
    (∃ visit ∈ (Script.scan twoMethods).visits, visit.emitted.isSome = true) ∧
      (((Script.scan twoMethods).visits.drop 1).filterMap Visit.emitted).length = 2 := by
  have hscan := visits_emit_iff twoMethods
  constructor
  · obtain ⟨visit, hvisit, hmethod, hbase⟩ : ∃ visit ∈ (Script.scan twoMethods).visits,
        visit.method?.isSome = true ∧ visit.before.draft.baseUrl ≠ [] := by decide +kernel
    exact ⟨visit, hvisit, (hscan.1 visit hvisit).2.1.mpr (Or.inl ⟨hmethod, hbase⟩)⟩
  · have hstretch := hscan.2 ((Script.scan twoMethods).visits.take 1)
      ((Script.scan twoMethods).visits.drop 1) []
      (by rw [List.append_nil, List.take_append_drop]) (by decide +kernel)
    rw [hstretch.1]
    decide +kernel

end RequestScript
