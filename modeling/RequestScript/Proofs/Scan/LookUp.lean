import RequestScript.Proofs.Scan.Emission

/-!
# What a request sends

The keyword of a request is read after the variables have been replaced, its name is read off the
line as it is written.  Between the two stands whatever the replacement has made of the name: other
names, several words, several lines or nothing.  It stands behind the keyword, though, and no
variable reaches over the blank in between, so that the name is always found.

Main results:

- Definition {lit}`ShowsRequest`: a line asks for a variable.
- Definition {lit}`LooksUp`: a visit sends the value of a variable, if it has one.
- Theorem {lit}`exists_looksUp`: every visit of such a line does.
-/

namespace RequestScript

open Text

namespace Scan

/-! ## Going on with a request -/

/-- The request in progress that a line with a leader goes on with: a line that continues in a
fresh scenario drops a request whose method is known. -/
def resumed (draft : Draft) (leader : Leader) : Draft :=
  if draft.freshScenario = true ∧ leader = .also ∧ draft.method ≠ [] then draft.reset else draft

theorem beforeEffect_of_firstWord (draft : Draft) {text : Text} {leader : Leader}
    (h : firstWord text = leader.spelling) : beforeEffect draft text = resumed draft leader := by
  have hdrops : continuesPending draft text = true ↔
      draft.freshScenario = true ∧ leader = .also ∧ draft.method ≠ [] := by
    rw [continuesPending_iff, h, Leader.spelling_inj]
  simp only [beforeEffect, resumed, hdrops]

/-! ## Lines that ask for a variable -/

/-- A line asks for a variable by its name, more text may follow, and no variable occurs in its
leader or in its keyword. -/
structure ShowsRequest (bindings : Bindings) (text : Text) (leader : Leader) (name : Text) :
    Prop where
  admits : leader ≠ .when
  leaderIntact : bindings.Avoids leader.spelling
  keywordIntact : bindings.Avoids Keyword.request.spelling
  shows : ∃ gap between tail, IsGap gap ∧ IsGap between ∧ IsWord name ∧ Detached tail ∧
    text = Statement.headed leader gap .request (between ++ (name ++ tail))

/-- The replacement of the variables moves neither the leader nor the keyword, and the name is
taken from the line as it is written. -/
theorem ShowsRequest.reads {bindings : Bindings} {text : Text} {leader : Leader} {name : Text}
    (h : ShowsRequest bindings text leader name) (hnamed : bindings.Named) :
    Statement.ofText (bindings.substitute text) text = .ok (some (.request leader name)) ∧
      firstWord (bindings.substitute text) = leader.spelling := by
  rcases h.shows with ⟨gap, between, tail, hgap, hbetween, hname, htail, htext⟩
  have hdetached : Detached (between ++ (name ++ tail)) := hbetween.detached_append _
  have hsubstituted : bindings.substitute text =
      Statement.headed leader gap .request (bindings.substitute (between ++ (name ++ tail))) := by
    rw [htext, Statement.substitute_headed hnamed h.leaderIntact h.keywordIntact hgap hdetached]
  have hoperand : Statement.operand text = .ok name := by
    rw [htext, Statement.operand_headed_append hgap hbetween hname htail]
  rw [hsubstituted]
  constructor
  · rw [Statement.ofText_headed (Keyword.request.admits_of_ne_when h.admits) hgap
      (hnamed.detached_substitute hdetached), Statement.ofParts, hoperand]
    rfl
  · exact Statement.firstWord_headed hgap

/-- A visit looks up a variable: it reads the request for it, emits nothing, and the value of the
variable becomes the body.  Without a value the request in progress stays as it is. -/
structure LooksUp (state : State) (rest : List Line) (leader : Leader) (name : Text)
    (passage : Passage) : Prop where
  reads : passage.visit.statement? = some (.request leader name)
  silent : passage.visit.emitted = none
  rest : passage.rest = rest
  bindings : passage.after.bindings = state.bindings
  sends : ∀ value, state.bindings.value? name = some value →
    passage.after.draft = (resumed state.draft leader).setBody value
  keeps : state.bindings.value? name = none →
    passage.after.draft = resumed state.draft leader

end Scan

open Scan

/-- In every state that a scan reaches, a line that asks for a variable is read as the request for
the name that stands on it, whatever the replacement of the variables makes of the line.  The body
is then the value of the variable if it has one, and the visit never fails. -/
theorem exists_looksUp {content : Text} {state : State} {line : Line} {rest : List Line}
    (hreach : Reaches content state (line :: rest)) {leader : Leader} {name : Text}
    (hshows : ShowsRequest state.bindings line.text leader name) :
    ∃ passage, visitLine state line rest = .ok passage ∧
      LooksUp state rest leader name passage := by
  rcases hshows.reads hreach.named with ⟨hread, hfirst⟩
  have hresumed := beforeEffect_of_firstWord state.draft hfirst
  have hsilent : (drafted state (state.bindings.substitute line.text)
      (some (.request leader name))).isComplete = false :=
    isComplete_drafted_of_other hreach.isComplete _ (by simp) (by simp)
  refine ⟨_, visitLine_of_binds hread (.keep (by simp)), ?_⟩
  rw [emit_of_not_isComplete hsilent]
  constructor
  case reads => rfl
  case silent => rfl
  case rest => rfl
  case bindings => rfl
  case sends =>
    intro value hvalue
    rw [← hresumed]
    exact drafted_request_of_some state _ leader name hvalue
  case keeps =>
    intro hvalue
    rw [← hresumed]
    exact drafted_request_of_none state _ leader name hvalue

/-- A script with a variable whose value is the name of another one, which holds two lines.  Its
last line drops the method and asks for the first variable. -/
def cascade : Text :=
  ("* def ab = a\n* def a = '''\nScenario: x\n@y\n'''\n" ++
    "@t\nWhen method put\nAnd request ab ab").toList

theorem exists_looksUp_cascade :
    ∃ state line rest passage, Reaches cascade state (line :: rest) ∧
      ShowsRequest state.bindings line.text .also "ab".toList ∧
      state.bindings.substitute line.text =
        "And request Scenario: x\n@y Scenario: x\n@y".toList ∧
      visitLine state line rest = .ok passage ∧
      LooksUp state rest .also "ab".toList passage ∧
      passage.after.draft = { body := "a".toList, freshScenario := true } := by
  obtain ⟨visit, hvisit, hbefore, hline⟩ : ∃ visit ∈ (Script.scan cascade).visits,
      visit.before = ⟨⟨[("ab".toList, "a".toList), ("a".toList, "Scenario: x\n@y".toList)]⟩,
        { method := "PUT".toList
          headers := ⟨[("Accept".toList, jsonMediaType), ("Content-Type".toList, jsonMediaType)]⟩
          freshScenario := true }⟩ ∧
        visit.line.text =
          Statement.headed .also [' '] .request ([' '] ++ ("ab".toList ++ " ab".toList)) := by
    decide +kernel
  rcases exists_reaches_of_mem_visits hvisit with ⟨state, line, rest, hreach, rfl⟩
  rw [visited_before] at hbefore
  rw [visited_line] at hline
  have hshows : ShowsRequest state.bindings line.text .also "ab".toList :=
    ⟨by decide, by rw [hbefore]; decide, by rw [hbefore]; decide,
      [' '], [' '], " ab".toList, isGap_space, isGap_space, by decide,
      detached_cons isBlank_space _, hline⟩
  obtain ⟨passage, hpassage, hlooks⟩ := exists_looksUp hreach hshows
  refine ⟨state, line, rest, passage, hreach, hshows, ?_, hpassage, hlooks, ?_⟩
  · rw [hline, hbefore]
    decide +kernel
  · rw [hlooks.sends "a".toList (by rw [hbefore]; decide), hbefore]
    decide

end RequestScript
