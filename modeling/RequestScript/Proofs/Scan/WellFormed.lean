import RequestScript.Proofs.Scan.Steps
import RequestScript.Proofs.Text.Case

/-!
# Well-formed requests

Whatever a script says, the requests that it issues are in order: the method is an
upper-case word that has brought its headers along, names are names and stand once, and
quotes occur neither in the values nor at the ends of the body.

A request is put together over many lines, and a method may wait for its address while
other lines go on.  The rule is therefore kept by every line: for the request in progress,
in which a method need not be there yet, and for the values of the variables, one of which
may become the body.

Main results:

- Definition {lit}`Request.WellFormed`: what every emitted request fulfils.
- Theorem {lit}`Draft.WellFormed.setMethod`: a method brings its headers along.
- Theorem {lit}`wellFormed_drafted`: every statement keeps the request in progress
  well-formed.
- Theorem {lit}`Reaches.wellFormed`: the invariant of a scan.
- Theorem {lit}`wellFormed_of_mem_requests`: every emitted request is well-formed.
-/

namespace RequestScript

open Text

/-! ## Values without quotes -/

namespace Literal

/-- A text neither begins nor ends with a quote. -/
structure Bare (text : Text) : Prop where
  head : ∀ c ∈ text.head?, isQuote c = false
  last : ∀ c ∈ text.getLast?, isQuote c = false

theorem bare_nil : Bare [] :=
  ⟨by simp, by simp⟩

/-- A value that has lost the quotes at its ends neither begins nor ends with one. -/
theorem bare_stripQuotes (value : Text) : Bare (stripQuotes value) :=
  ⟨fun _ hc => head?_strip hc, fun _ hc => getLast?_stripEnd hc⟩

end Literal

/-- The names of a map are different names, and its values hold no quotes. -/
structure Tidy (m : OrderedMap Text Text) : Prop where
  nodup : m.keys.Nodup
  name : ∀ entry ∈ m.entries, IsName entry.1
  unquoted : ∀ entry ∈ m.entries, ∀ c ∈ entry.2, Literal.isQuote c = false

namespace Tidy

variable {m : OrderedMap Text Text} {name value : Text}

/-- Without entries there is nothing to keep tidy. -/
theorem empty : Tidy ∅ :=
  ⟨by simp, by simp, by simp⟩

/-- A map stays tidy when a name is given a value without quotes. -/
theorem insert (h : Tidy m) (hname : IsName name)
    (hvalue : ∀ c ∈ value, Literal.isQuote c = false) : Tidy (m.insert name value) where
  nodup := OrderedMap.nodup_keys_insert h.nodup name value
  name := OrderedMap.forall_mem_insert h.name hname
  unquoted := OrderedMap.forall_mem_insert h.unquoted hvalue

/-- A map stays tidy when a new name is given a value without quotes. -/
theorem insertNew (h : Tidy m) (hname : IsName name)
    (hvalue : ∀ c ∈ value, Literal.isQuote c = false) : Tidy (m.insertNew name value) := by
  unfold OrderedMap.insertNew
  split
  · exact h
  · exact h.insert hname hvalue

end Tidy

/-! ## Requests -/

/-- A method is in place: it is an upper-case word, and the headers that it brings along
are there. -/
structure MethodInPlace (method : Text) (headers : OrderedMap Text Text) : Prop where
  word : IsWord method
  upper : Text.upper method = method
  accept : "Accept".toList ∈ headers.keys
  contentType : method ∈ bodyMethods → "Content-Type".toList ∈ headers.keys

/-- What every emitted request fulfils. -/
structure Request.WellFormed (request : Request) : Prop where
  method : MethodInPlace request.method request.headers
  baseUrl : request.baseUrl ≠ []
  headers : Tidy request.headers
  params : Tidy request.params
  body : Literal.Bare request.body

/-- What every request in progress fulfils: it would be a well-formed request with a method
and a base address. -/
structure Draft.WellFormed (draft : Draft) : Prop where
  method : draft.method ≠ [] → MethodInPlace draft.method draft.headers
  headers : Tidy draft.headers
  params : Tidy draft.params
  body : Literal.Bare draft.body

namespace Draft.WellFormed

variable {draft : Draft}

theorem empty (baseUrl : Text) (fresh : Bool) :
    WellFormed { baseUrl := baseUrl, freshScenario := fresh } :=
  ⟨fun hmethod => absurd rfl hmethod, Tidy.empty, Tidy.empty, Literal.bare_nil⟩

/-- A draft stays well-formed when it gets a header. -/
theorem setHeader (h : draft.WellFormed) {name value : Text} (hname : IsName name)
    (hvalue : ∀ c ∈ value, Literal.isQuote c = false) : (draft.setHeader name value).WellFormed := by
  have hkeeps : ∀ {key : Text}, key ∈ draft.headers.keys →
      key ∈ (draft.setHeader name value).headers.keys :=
    fun hkey => OrderedMap.mem_keys_insert.mpr (Or.inr hkey)
  refine ⟨fun hmethod => ?_, h.headers.insert hname hvalue, h.params, h.body⟩
  have hplace := h.method hmethod
  exact ⟨hplace.word, hplace.upper, hkeeps hplace.accept, fun hbody =>
    hkeeps (hplace.contentType hbody)⟩

/-- A draft stays well-formed when it gets a parameter. -/
theorem setParam (h : draft.WellFormed) {name value : Text} (hname : IsName name)
    (hvalue : ∀ c ∈ value, Literal.isQuote c = false) : (draft.setParam name value).WellFormed :=
  ⟨h.method, h.headers, h.params.insert hname hvalue, h.body⟩

/-- A draft stays well-formed when it gets a body that is bare. -/
theorem setBody (h : draft.WellFormed) {body : Text} (hbody : Literal.Bare body) :
    (draft.setBody body).WellFormed :=
  ⟨h.method, h.headers, h.params, hbody⟩

/-- A method brings its headers along, whether another method has been waiting or not. -/
theorem setMethod (h : draft.WellFormed) {word : Text} (hword : IsWord word) :
    (draft.setMethod word).WellFormed := by
  have hjson : ∀ c ∈ jsonMediaType, Literal.isQuote c = false := by decide
  have haccept : Tidy (draft.headers.insertNew "Accept".toList jsonMediaType) :=
    h.headers.insertNew (by decide) hjson
  have hcontent : Tidy ((draft.headers.insertNew "Accept".toList jsonMediaType).insertNew
      "Content-Type".toList jsonMediaType) := haccept.insertNew (by decide) hjson
  have hmem : "Accept".toList ∈
      (draft.headers.insertNew "Accept".toList jsonMediaType).keys :=
    OrderedMap.mem_keys_insertNew.mpr (Or.inl rfl)
  by_cases hsends : upper word ∈ bodyMethods
  · have hheaders : (draft.setMethod word).headers =
        (draft.headers.insertNew "Accept".toList jsonMediaType).insertNew "Content-Type".toList
          jsonMediaType := by
      simp [Draft.setMethod, hsends]
    refine ⟨fun _ => ⟨hword.upper, upper_upper word, ?_, fun _ => ?_⟩, ?_, h.params, h.body⟩
    · rw [hheaders]
      exact OrderedMap.mem_keys_insertNew.mpr (Or.inr hmem)
    · rw [hheaders]
      exact OrderedMap.mem_keys_insertNew.mpr (Or.inl rfl)
    · rw [hheaders]
      exact hcontent
  · have hheaders : (draft.setMethod word).headers =
        draft.headers.insertNew "Accept".toList jsonMediaType := by
      simp [Draft.setMethod, hsends]
    refine ⟨fun _ => ⟨hword.upper, upper_upper word, ?_, fun hbody => absurd hbody hsends⟩, ?_,
      h.params, h.body⟩
    · rw [hheaders]
      exact hmem
    · rw [hheaders]
      exact haccept

/-- A complete request in progress is a well-formed request. -/
theorem toRequest (h : draft.WellFormed) (hcomplete : draft.isComplete = true) :
    draft.toRequest.WellFormed := by
  rw [Draft.isComplete_iff] at hcomplete
  exact ⟨h.method hcomplete.1, hcomplete.2, h.headers, h.params, h.body⟩

end Draft.WellFormed

namespace Scan

/-! ## The invariant -/

/-- The request in progress is well-formed, and every variable has a value that neither
begins nor ends with a quote. -/
structure State.WellFormed (state : State) : Prop where
  draft : state.draft.WellFormed
  values : ∀ name value, state.bindings.value? name = some value → Literal.Bare value

/-- A draft stays well-formed when its method is dropped before a line. -/
theorem wellFormed_beforeEffect {draft : Draft} (h : draft.WellFormed) (text : Text) :
    (beforeEffect draft text).WellFormed := by
  unfold beforeEffect
  split
  · exact Draft.WellFormed.empty draft.baseUrl draft.freshScenario
  · exact h

/-- Every statement keeps the request in progress well-formed. -/
theorem wellFormed_drafted {state : State} (h : state.WellFormed) (text : Text)
    {statement : Option Statement} (hsound : ∀ stated, statement = some stated → stated.Sound) :
    (drafted state text statement).WellFormed := by
  have hbefore := wellFormed_beforeEffect h.draft text
  cases statement with
  | none => exact hbefore
  | some stated =>
    have hstated := hsound stated rfl
    cases stated with
    | boundary mark => exact Draft.WellFormed.empty state.draft.baseUrl true
    | definition leader name value => exact hbefore
    | url leader url => exact ⟨hbefore.method, hbefore.headers, hbefore.params, hbefore.body⟩
    | path leader path => exact ⟨hbefore.method, hbefore.headers, hbefore.params, hbefore.body⟩
    | header leader name value => exact hbefore.setHeader hstated.1 hstated.2
    | method leader given =>
      rcases hstated with ⟨word, hword, rfl⟩
      exact hbefore.setMethod hword.upper
    | param leader name value => exact hbefore.setParam hstated.1 hstated.2
    | request leader name =>
      cases hvalue : state.bindings.value? name with
      | none =>
        rw [drafted_request_of_none state text leader name hvalue]
        exact hbefore
      | some body =>
        rw [drafted_request_of_some state text leader name hvalue]
        exact hbefore.setBody (h.values name body hvalue)

/-- The value of a definition has lost the quotes around it. -/
theorem bare_valueFrom (text : Text) (rest : List Line) :
    Literal.Bare (valueFrom text rest).1 := by
  unfold valueFrom
  split
  · exact Literal.bare_stripQuotes _
  · exact Literal.bare_stripQuotes text

/-- The value of a definition has lost the quotes at its ends, wherever it stands. -/
theorem bare_of_definedValue {name value : Text} {rest : List Line} {result : Text × List Line}
    (h : definedValue name value rest = .ok result) : Literal.Bare result.1 := by
  rcases definedValue_cases h with ⟨-, rfl⟩ | ⟨-, next, lines, -, rfl⟩
  · exact bare_valueFrom value rest
  · exact bare_valueFrom next.text lines

/-- No statement gives a variable a value with a quote at its ends. -/
theorem Binds.bare {bindings after : Bindings} {rest left : List Line}
    {statement : Option Statement} (h : Binds bindings rest statement after left)
    (hvalues : ∀ name value, bindings.value? name = some value → Literal.Bare value) :
    ∀ name value, after.value? name = some value → Literal.Bare value := by
  cases h with
  | keep => exact hvalues
  | @define leader defined value given left hdefined =>
    intro name found hfound
    by_cases hname : name = defined
    · rw [hname, Bindings.value?_define_self, Option.some.injEq] at hfound
      rw [← hfound]
      exact bare_of_definedValue hdefined
    · rw [Bindings.value?_define_of_ne bindings hname] at hfound
      exact hvalues name found hfound

/-- A visit keeps the invariant. -/
theorem State.WellFormed.step {state : State} (h : state.WellFormed) {line : Line}
    {rest : List Line} {passage : Passage} (hvisit : visitLine state line rest = .ok passage) :
    passage.after.WellFormed := by
  rcases visitLine_ok hvisit with ⟨statement, hpassed⟩
  refine ⟨?_, hpassed.binds.bare h.values⟩
  rw [hpassed.draft]
  dsimp only
  split
  · exact Draft.WellFormed.empty _ _
  · exact wellFormed_drafted h _ hpassed.sound

/-- In every state that a scan reaches, the request in progress is well-formed. -/
theorem Reaches.wellFormed {content : Text} {state : State} {lines : List Line}
    (h : Reaches content state lines) : state.WellFormed := by
  have hstart : State.WellFormed {} :=
    ⟨Draft.WellFormed.empty [] false, fun name value hvalue => by simp [Bindings.value?] at hvalue⟩
  exact h.preserves State.WellFormed hstart fun hstate hvisit => hstate.step hvisit

/-- What a visit of a script emits is well-formed. -/
theorem Reaches.wellFormed_emitted {content : Text} {state : State} {line : Line}
    {rest : List Line} (h : Reaches content state (line :: rest)) {request : Request}
    (hemitted : (visited state line rest).emitted = some request) : request.WellFormed := by
  rcases exists_passed_of_emitted hemitted with ⟨passage, statement, -, hpassed, hcomplete, rfl⟩
  exact (wellFormed_drafted h.wellFormed _ hpassed.sound).toRequest hcomplete

end Scan

open Scan

/-- Every request that a script issues is well-formed, also when a later line of the script
is faulty. -/
theorem wellFormed_of_mem_requests (content : Text) :
    ∀ request ∈ (Script.scan content).requests, request.WellFormed := by
  intro request hrequest
  rcases exists_reaches_of_mem_requests hrequest with ⟨state, line, rest, hreach, hemitted⟩
  exact hreach.wellFormed_emitted hemitted

/-- A script that changes a waiting method, sends a body, and then has a fault. -/
def changedMethod : Text :=
  ("* def b = '\"x'\n* method get\n* header A = 'y\"'\n* method patch\n* request b\n" ++
    "* url 'u'\n* header A").toList

theorem wellFormed_of_mem_requests_changedMethod :
    (Script.scan changedMethod).failure.isSome = true ∧
      ∃ request ∈ (Script.scan changedMethod).requests, request.method = "PATCH".toList ∧
        request.body = "x".toList ∧ request.WellFormed := by
  refine ⟨by decide +kernel, ?_⟩
  obtain ⟨request, hrequest, hmethod, hbody⟩ : ∃ request ∈ (Script.scan changedMethod).requests,
      request.method = "PATCH".toList ∧ request.body = "x".toList := by decide +kernel
  exact ⟨request, hrequest, hmethod, hbody,
    wellFormed_of_mem_requests changedMethod request hrequest⟩

end RequestScript
