import RequestScript.Proofs.Scan.Emission
import RequestScript.Proofs.Scan.Resets
import RequestScript.Proofs.Writes

/-!
# Requests told by the visits

A request can be read off the visits of a scan without any state.  Its base address is
the last one that the script has given.  Everything else comes from the visits after the
last reset point: the last method, path and body, the parameters, and the headers
together with those that a method brings along.

Main results:

- Definition {lit}`Request.Means`: the request that a stretch of visits asks for.
- Theorem {lit}`Request.Means.eq`: a stretch of visits asks for one request only.
- Theorem {lit}`Draft.Means.add`: one visit more keeps the request in progress told by
  the visits.
- Theorem {lit}`tracks_of_steps`: the invariant of a scan.
- Theorem {lit}`means_of_emitted`: what an emitted request is made of.
-/

namespace RequestScript
namespace Scan

/-! ## What a visit gives -/

/-- The path that a visit has given. -/
def Visit.path? (visit : Visit) : Option Text :=
  match visit.statement? with
  | some (.path _ given) => some given
  | _ => none

/-- The header that a visit has given, name and value. -/
def Visit.header? (visit : Visit) : Option (Text × Text) :=
  match visit.statement? with
  | some (.header _ name value) => some (name, value)
  | _ => none

/-- The parameter that a visit has given, name and value. -/
def Visit.param? (visit : Visit) : Option (Text × Text) :=
  match visit.statement? with
  | some (.param _ name value) => some (name, value)
  | _ => none

/-- The body that a visit has given: the value that the variable had then.  A variable
that was not defined gives nothing. -/
def Visit.body? (visit : Visit) : Option Text :=
  match visit.statement? with
  | some (.request _ name) => visit.before.bindings.value? name
  | _ => none

/-- The headers that every request with the given method carries. -/
def methodHeaders (method : Text) : List Text :=
  if bodyMethods.contains method then ["Accept".toList, "Content-Type".toList]
  else ["Accept".toList]

/-- The names of the headers that a visit sets, those that a method brings along
included. -/
def Visit.headerNames (visit : Visit) : List Text :=
  match visit.statement? with
  | some (.header _ name _) => [name]
  | some (.method _ given) => methodHeaders given
  | _ => []

/-- What visits have given last. -/
def lastGiven {α : Type} (given? : Visit → Option α) (visits : List Visit) : Option α :=
  (visits.filterMap given?).getLast?

@[simp]
theorem lastGiven_append {α : Type} (given? : Visit → Option α) (visits : List Visit)
    (visit : Visit) :
    lastGiven given? (visits ++ [visit]) = (given? visit).or (lastGiven given? visits) := by
  cases h : given? visit with
  | none => simp [lastGiven, List.filterMap_append, h]
  | some value => simp [lastGiven, List.filterMap_append, h]

/-- Nothing was given last when nothing was given at all. -/
theorem lastGiven_eq_none_iff {α : Type} (given? : Visit → Option α) (visits : List Visit) :
    lastGiven given? visits = none ↔ ∀ visit ∈ visits, given? visit = none := by
  rw [lastGiven, List.getLast?_eq_none_iff, List.filterMap_eq_nil_iff]

/-- What was given last was given by a visit. -/
theorem exists_of_lastGiven {α : Type} {given? : Visit → Option α} {visits : List Visit} {value : α}
    (h : lastGiven given? visits = some value) : ∃ visit ∈ visits, given? visit = some value :=
  List.mem_filterMap.mp (List.mem_of_getLast? h)

end Scan

open Scan

/-! ## Meaning -/

/-- A request is what the visits of a script up to a place ask for: the base address
comes from all of them, everything else from the span after the last reset point.  The
headers that only a method has set share one value. -/
structure Request.Means (request : Request) (script span : List Visit) : Prop where
  method : lastGiven Visit.method? span = some request.method
  baseUrl : lastGiven Visit.url? script = some request.baseUrl
  path : request.path = (lastGiven Visit.path? span).getD []
  headers : request.headers.Lists (span.flatMap Visit.headerNames)
    (valueOr jsonMediaType (span.flatMap Visit.headerNames) (span.filterMap Visit.header?))
  params : request.params.Lists ((span.filterMap Visit.param?).map Prod.fst)
    (lastValue (span.filterMap Visit.param?))
  body : request.body = (lastGiven Visit.body? span).getD []

/-- Visits ask for one request only. -/
theorem Request.Means.eq {request other : Request} {script span : List Visit}
    (h : request.Means script span) (hother : other.Means script span) : request = other := by
  have hmethod : request.method = other.method :=
    Option.some.inj (h.method.symm.trans hother.method)
  have hbaseUrl : request.baseUrl = other.baseUrl :=
    Option.some.inj (h.baseUrl.symm.trans hother.baseUrl)
  have hpath : request.path = other.path := h.path.trans hother.path.symm
  have hheaders : request.headers = other.headers := h.headers.eq hother.headers
  have hparams : request.params = other.params := h.params.eq hother.params
  have hbody : request.body = other.body := h.body.trans hother.body.symm
  cases request
  cases other
  simp_all only

/-- The request in progress is what the visits of a script so far ask for; what they do
not tell is empty. -/
structure Draft.Means (draft : Draft) (script span : List Visit) : Prop where
  method : draft.method = (lastGiven Visit.method? span).getD []
  baseUrl : draft.baseUrl = (lastGiven Visit.url? script).getD []
  path : draft.path = (lastGiven Visit.path? span).getD []
  headers : draft.headers.Lists (span.flatMap Visit.headerNames)
    (valueOr jsonMediaType (span.flatMap Visit.headerNames) (span.filterMap Visit.header?))
  params : draft.params.Lists ((span.filterMap Visit.param?).map Prod.fst)
    (lastValue (span.filterMap Visit.param?))
  body : draft.body = (lastGiven Visit.body? span).getD []
  fresh : draft.freshScenario = true ↔ Fresh script

namespace Draft.Means

variable {draft : Draft} {script span : List Visit} {visit : Visit}

/-- Before the first visit the empty draft has everything that it should. -/
theorem empty : Means {} [] [] :=
  ⟨rfl, rfl, rfl, OrderedMap.lists_empty, OrderedMap.lists_empty, rfl,
    by simp [not_fresh_nil]⟩

/-- A reset starts a new span. -/
theorem reset (h : draft.Means script span) : draft.reset.Means script [] :=
  ⟨rfl, h.baseUrl, rfl, OrderedMap.lists_empty, OrderedMap.lists_empty, rfl, h.fresh⟩

/-- A complete request in progress is a request that the visits ask for. -/
theorem toRequest (h : draft.Means script span) (hcomplete : draft.isComplete = true) :
    draft.toRequest.Means script span := by
  have hgiven : ∀ {text : Text} {last : Option Text}, text = last.getD [] → text ≠ [] →
      last = some text := by
    intro text last heq hne
    cases last with
    | none => exact absurd heq hne
    | some given => exact congrArg some heq.symm
  rw [Draft.isComplete_iff] at hcomplete
  exact ⟨hgiven h.method hcomplete.1, hgiven h.baseUrl hcomplete.2, h.path, h.headers, h.params,
    h.body⟩

/-- A method is waiting exactly if the span has given one. -/
theorem method_ne_nil_iff (h : draft.Means script span)
    (hgiven : ∀ visit ∈ span, ∀ method, visit.method? = some method → method ≠ []) :
    draft.method ≠ [] ↔ ∃ giving ∈ span, giving.method?.isSome = true := by
  rw [h.method]
  cases hlast : lastGiven Visit.method? span with
  | none =>
    rw [lastGiven_eq_none_iff] at hlast
    constructor
    · intro hmethod
      exact absurd rfl hmethod
    · rintro ⟨giving, hmem, hsome⟩
      simp [hlast giving hmem] at hsome
  | some method =>
    rcases exists_of_lastGiven hlast with ⟨giving, hmem, hmethod⟩
    constructor
    · intro _
      exact ⟨giving, hmem, by simp [hmethod]⟩
    · intro _
      exact hgiven giving hmem method hmethod

/-- A scenario line starts a new span in a fresh scenario. -/
theorem startScenario (h : draft.Means script span) (hvisit : visit.startsScenario) :
    draft.startScenario.Means (script ++ [visit]) [] := by
  rcases hvisit with ⟨text, htext⟩
  have hurl : visit.url? = none := by simp [Visit.url?, htext]
  refine ⟨rfl, ?_, rfl, OrderedMap.lists_empty, OrderedMap.lists_empty, rfl, ?_⟩
  · simpa [hurl] using h.baseUrl
  · rw [fresh_append_iff]
    simp [Visit.startsScenario, htext]

/-- One visit more, told field by field. -/
theorem append (h : draft.Means script span) {next : Draft} (visit : Visit)
    (hmethod : next.method = visit.method?.getD draft.method)
    (hbaseUrl : next.baseUrl = visit.url?.getD draft.baseUrl)
    (hpath : next.path = visit.path?.getD draft.path)
    (hheaders : next.headers.Lists (span.flatMap Visit.headerNames ++ visit.headerNames)
      (valueOr jsonMediaType (span.flatMap Visit.headerNames ++ visit.headerNames)
        (span.filterMap Visit.header? ++ visit.header?.toList)))
    (hparams : next.params.Lists
      ((span.filterMap Visit.param? ++ visit.param?.toList).map Prod.fst)
      (lastValue (span.filterMap Visit.param? ++ visit.param?.toList)))
    (hbody : next.body = visit.body?.getD draft.body)
    (hfresh : next.freshScenario = true ↔
      visit.startsScenario ∨ draft.freshScenario = true ∧ visit.url? = none) :
    next.Means (script ++ [visit]) (span ++ [visit]) := by
  have hlast : ∀ {given? : Visit → Option Text} {visits : List Visit} {before after : Text},
      before = (lastGiven given? visits).getD [] → after = (given? visit).getD before →
        after = (lastGiven given? (visits ++ [visit])).getD [] := by
    intro given? visits before after hbefore hafter
    rw [hafter, hbefore, lastGiven_append]
    cases given? visit <;> rfl
  have hgiven : ∀ {given? : Visit → Option (Text × Text)},
      (span ++ [visit]).filterMap given? = span.filterMap given? ++ (given? visit).toList := by
    intro given?
    rw [List.filterMap_append]
    cases hvisit : given? visit <;> simp [hvisit]
  refine ⟨hlast h.method hmethod, hlast h.baseUrl hbaseUrl, hlast h.path hpath, ?_, ?_,
    hlast h.body hbody, ?_⟩
  · rw [List.flatMap_append, List.flatMap_singleton, hgiven]
    exact hheaders
  · rw [hgiven]
    exact hparams
  · rw [fresh_append_iff, hfresh, h.fresh]

/-- A method names the headers that it brings along. -/
theorem lists_setMethod {names : List Text} {writes : List (Text × Text)} {given : Text}
    (h : draft.headers.Lists names (valueOr jsonMediaType names writes))
    (hupper : Text.upper given = given) :
    (draft.setMethod given).headers.Lists (names ++ methodHeaders given)
      (valueOr jsonMediaType (names ++ methodHeaders given) writes) := by
  have haccept := h.insertNew_valueOr "Accept".toList
  simp only [Draft.setMethod, hupper, methodHeaders]
  split
  · have hcontent := haccept.insertNew_valueOr "Content-Type".toList
    simpa only [List.append_assoc, List.singleton_append] using hcontent
  · exact haccept

/-- One visit more keeps the request in progress told by the visits, whatever the visit
states. -/
theorem add {state : State} {line : Line} {text : Text} {statement : Option Statement}
    {emitted : Option Request} (h : (beforeEffect state.draft text).Means script span)
    (hstart : ∀ mark, statement ≠ some (.boundary mark))
    (hsound : ∀ stated, statement = some stated → stated.Sound) :
    (drafted state text statement).Means
      (script ++ [⟨state, line, text, .ok statement, emitted⟩])
      (span ++ [⟨state, line, text, .ok statement, emitted⟩]) := by
  have hnotStart : ¬ Visit.startsScenario ⟨state, line, text, .ok statement, emitted⟩ := by
    rintro ⟨mark, hmark⟩
    exact hstart mark hmark
  have hfresh : ∀ {fresh : Prop} {url : Option Text}, url = none →
      (fresh ↔ Visit.startsScenario ⟨state, line, text, .ok statement, emitted⟩ ∨
        fresh ∧ url = none) := by
    intro fresh url hurl
    simp [hnotStart, hurl]
  -- what a visit does not write stays as it was
  have hheaders := h.headers
  have hparams := h.params
  rw [← List.append_nil (span.flatMap Visit.headerNames),
    ← List.append_nil (span.filterMap Visit.header?)] at hheaders
  rw [← List.append_nil (span.filterMap Visit.param?)] at hparams
  cases statement with
  | none => exact h.append _ rfl rfl rfl hheaders hparams rfl (hfresh rfl)
  | some stated =>
    cases stated with
    | boundary mark => exact absurd rfl (hstart mark)
    | definition leader name value =>
      exact h.append _ rfl rfl rfl hheaders hparams rfl (hfresh rfl)
    | url leader url =>
      apply h.append _ rfl rfl rfl hheaders hparams rfl
      simp [Draft.setBaseUrl, hnotStart, Visit.url?, Visit.statement?]
    | path leader path => exact h.append _ rfl rfl rfl hheaders hparams rfl (hfresh rfl)
    | header leader name value =>
      exact h.append _ rfl rfl rfl (h.headers.insert_valueOr name value) hparams rfl (hfresh rfl)
    | method leader given =>
      have hupper : Text.upper given = given := by
        rcases hsound _ rfl with ⟨word, -, rfl⟩
        exact Text.upper_upper word
      refine h.append _ hupper rfl rfl ?_ hparams rfl (hfresh rfl)
      have hnames := lists_setMethod h.headers hupper
      rw [← List.append_nil (span.filterMap Visit.header?)] at hnames
      exact hnames
    | param leader name value =>
      exact h.append _ rfl rfl rfl hheaders (h.params.insert_writes name value) rfl (hfresh rfl)
    | request leader name =>
      cases hvalue : state.bindings.value? name with
      | none =>
        rw [drafted_request_of_none state text leader name hvalue]
        refine h.append _ rfl rfl rfl hheaders hparams ?_ (hfresh rfl)
        simp [Visit.body?, Visit.statement?, hvalue]
      | some body =>
        rw [drafted_request_of_some state text leader name hvalue]
        refine h.append _ rfl rfl rfl hheaders hparams ?_ (hfresh rfl)
        simp [Visit.body?, Visit.statement?, hvalue, Draft.setBody]

end Draft.Means

/-! ## The invariant -/

namespace Scan

/-- The request in progress is what the visits so far ask for, and every method that they
have given is there. -/
structure Tracks (visits : List Visit) (state : State) : Prop where
  given : ∀ visit ∈ visits, ∀ method, visit.method? = some method → method ≠ []
  means : ∃ reset, LastReset visits visits.length reset ∧
    state.draft.Means visits (visits.drop reset)

namespace Tracks

variable {visits : List Visit} {state : State} {line : Line} {rest : List Line}
  {passage : Passage} {statement : Option Statement}

/-- Just before a line takes effect, the request in progress is told by the visits after
the last reset point, which may be the place before the line. -/
theorem before (h : Tracks visits state) (visit : Visit) :
    ∃ reset, LastReset (visits ++ [visit]) visits.length reset ∧
      (beforeEffect state.draft visit.text).Means visits (visits.drop reset) := by
  rcases h.means with ⟨reset, hreset, hmeans⟩
  have hmethod := hmeans.method_ne_nil_iff fun giving hgiving =>
    h.given giving (List.mem_of_mem_drop hgiving)
  have hdrops : continuesPending state.draft visit.text = true ↔ visit.continues ∧ Fresh visits ∧
      ∃ giving ∈ visits.drop reset, giving.method?.isSome = true := by
    rw [continuesPending_iff, hmeans.fresh, hmethod]
    exact and_left_comm
  cases hcut : continuesPending state.draft visit.text with
  | true =>
    rcases hdrops.mp hcut with ⟨hcontinues, hfresh, hwaiting⟩
    refine ⟨visits.length, hreset.cut hcontinues hfresh hwaiting, ?_⟩
    rw [beforeEffect_of_continuesPending hcut, List.drop_length]
    exact hmeans.reset
  | false =>
    refine ⟨reset, hreset.keep fun hwhy => ?_, ?_⟩
    · simp [hdrops.mpr hwhy] at hcut
    · rw [beforeEffect_of_not_continuesPending hcut]
      exact hmeans

/-- Before a request is emitted, it is told by the visits up to its line. -/
theorem drafted (h : Tracks visits state) (hpassed : Passed state line rest passage statement)
    (hstart : ∀ mark, statement ≠ some (.boundary mark)) :
    ∃ reset, LastReset (visits ++ [passage.visit]) visits.length reset ∧
      (drafted state (state.bindings.substitute line.text) statement).Means
        (visits ++ [passage.visit]) ((visits ++ [passage.visit]).drop reset) := by
  rcases h.before passage.visit with ⟨reset, hreset, hmeans⟩
  refine ⟨reset, hreset, ?_⟩
  rw [List.drop_append_of_le_length hreset.1.1]
  rw [hpassed.visit] at hmeans ⊢
  exact hmeans.add hstart hpassed.sound

/-- A visit keeps the invariant. -/
theorem step (h : Tracks visits state) (hpassed : Passed state line rest passage statement) :
    Tracks (visits ++ [passage.visit]) passage.after := by
  have hstatement := hpassed.statement?_eq
  constructor
  · intro visit hvisit method hmethod
    rcases List.mem_append.mp hvisit with hearlier | hlast
    · exact h.given visit hearlier method hmethod
    · obtain rfl := List.mem_singleton.mp hlast
      rcases (method?_eq_some_iff passage.visit method).mp hmethod with ⟨leader, hgiven⟩
      rw [hstatement] at hgiven
      subst hgiven
      rcases Statement.sound_of_ofText hpassed.reads with ⟨word, hword, rfl⟩
      exact Text.upper_ne_nil hword.1
  · have hdraft := hpassed.draft
    have hemitted := hpassed.emitted
    dsimp only at hdraft hemitted
    by_cases hstart : ∃ mark, statement = some (.boundary mark)
    · rcases hstart with ⟨mark, rfl⟩
      have hstarts : passage.visit.startsScenario := ⟨mark, hstatement⟩
      rcases h.means with ⟨reset, -, hmeans⟩
      refine ⟨_, LastReset.forget (Or.inl hstarts), ?_⟩
      rw [List.drop_length, hdraft]
      exact hmeans.startScenario hstarts
    · rcases h.drafted hpassed fun mark heq => hstart ⟨mark, heq⟩ with ⟨reset, hreset, hmeans⟩
      by_cases hcomplete :
          (Scan.drafted state (state.bindings.substitute line.text) statement).isComplete = true
      · rw [if_pos hcomplete] at hdraft hemitted
        refine ⟨_, LastReset.forget (Or.inr (by rw [hemitted]; rfl)), ?_⟩
        rw [List.drop_length, hdraft]
        exact hmeans.reset
      · rw [if_neg hcomplete] at hdraft hemitted
        refine ⟨reset, hreset.carry ?_, ?_⟩
        · rintro (⟨mark, hmark⟩ | hsome)
          · exact hstart ⟨mark, hstatement.symm.trans hmark⟩
          · simp [hemitted] at hsome
        · rw [hdraft]
          exact hmeans

end Tracks

/-- A scan of a script tracks the request in progress. -/
theorem tracks_of_steps {lines left : List Line} {visits : List Visit} {state : State}
    (h : Steps {} lines visits state left) : Tracks visits state := by
  have hstart : Tracks [] {} :=
    ⟨by simp, 0, lastReset_nil, Draft.Means.empty⟩
  apply h.preserves Tracks hstart
  intro visits state line rest passage htracks hvisit
  rcases visitLine_ok hvisit with ⟨statement, hpassed⟩
  exact htracks.step hpassed

end Scan

/-- An emitted request is what the visits of the script up to its line ask for, and
nothing else: the base address is the last one given in the script, everything else
comes from the visits after the last reset point before the line. -/
theorem means_of_emitted (content : Text) {place : Nat} {request : Request}
    (h : (Script.scan content).visits[place]?.bind Visit.emitted = some request) :
    ∃ reset, LastReset (Script.scan content).visits place reset ∧
      ∀ other : Request, other.Means ((Script.scan content).visits.take (place + 1))
        (((Script.scan content).visits.take (place + 1)).drop reset) ↔ other = request := by
  rcases Option.bind_eq_some_iff.mp h with ⟨visit, hvisit, hemitted⟩
  obtain ⟨earlier, later, hscan, rfl⟩ : ∃ earlier later,
      (Script.scan content).visits = earlier ++ visit :: later ∧ earlier.length = place := by
    rcases List.getElem?_eq_some_iff.mp hvisit with ⟨hlt, rfl⟩
    refine ⟨(Script.scan content).visits.take place, (Script.scan content).visits.drop (place + 1),
      ?_, by simpa using hlt.le⟩
    rw [List.getElem_cons_drop, List.take_append_drop]
  rcases exists_steps_of_visits hscan with ⟨state, line, rest, hsteps, hvisited⟩
  cases hpassage : visitLine state line rest with
  | error failed =>
    rcases failed with ⟨silent, reason⟩
    rw [visited_of_error hpassage] at hvisited
    rcases visitLine_error hpassage with ⟨-, -, hsilent, -⟩
    rw [hvisited, hsilent] at hemitted
    simp at hemitted
  | ok passage =>
    rw [visited_of_ok hpassage] at hvisited
    subst hvisited
    rcases visitLine_ok hpassage with ⟨statement, hpassed⟩
    have hwhy := hpassed.emitted
    rw [hemitted] at hwhy
    dsimp only at hwhy
    split at hwhy
    · rename_i hcomplete
      have hstart : ∀ mark, statement ≠ some (.boundary mark) := by
        rintro mark rfl
        simp at hcomplete
      rcases (tracks_of_steps hsteps).drafted hpassed hstart with ⟨reset, hreset, hmeans⟩
      have htake : (earlier ++ passage.visit :: later).take (earlier.length + 1) =
          earlier ++ [passage.visit] := by
        rw [List.append_cons, List.take_left' (by simp)]
      refine ⟨reset, ?_, ?_⟩
      · rw [hscan, List.append_cons]
        exact hreset.append (by simp) later
      · rw [hscan, htake, Option.some.inj hwhy]
        intro other
        constructor
        · intro hother
          exact hother.eq (hmeans.toRequest hcomplete)
        · rintro rfl
          exact hmeans.toRequest hcomplete
    · simp at hwhy

/-- A script with a method that is dropped, and a header and a base address that are
not. -/
def droppedMethod : Text :=
  "Scenario: a\n* method post\nAnd header B = 2\n* url 'u'\n* param q = 1\n* method put".toList

theorem means_of_emitted_droppedMethod :
    ∃ reset, LastReset (Script.scan droppedMethod).visits 5 reset ∧
      ∀ other : Request, other.Means ((Script.scan droppedMethod).visits.take 6)
        (((Script.scan droppedMethod).visits.take 6).drop reset) ↔
          other = {
            method := "PUT".toList
            baseUrl := "u".toList
            headers := ⟨[("B".toList, "2".toList), ("Accept".toList, jsonMediaType),
              ("Content-Type".toList, jsonMediaType)]⟩
            params := ⟨[("q".toList, "1".toList)]⟩ } :=
  means_of_emitted droppedMethod (by decide +kernel)

end RequestScript
