import RequestScript.OrderedMap
import RequestScript.Text.Upper

/-!
# Requests

A request is what a script issues: a method, an address made of a base and a path,
headers, parameters and a body.  While a script is read, the request in progress is
a draft; it is complete as soon as it has a method and a base address.

Main results:

- Definition {lit}`Request.target`: the address with the parameters.
- Theorem {lit}`Draft.isComplete_iff`: when a draft is complete.
- Theorem {lit}`Draft.reset_baseUrl`: a reset keeps the base address.
-/

namespace RequestScript

/-- A finished request. -/
structure Request where
  method : Text
  baseUrl : Text
  path : Text := []
  headers : OrderedMap Text Text := ∅
  params : OrderedMap Text Text := ∅
  body : Text := []
deriving DecidableEq, Repr

/-- The methods that send a body. -/
def bodyMethods : List Text :=
  ["POST".toList, "PUT".toList, "PATCH".toList]

/-- The media type that is asked for and sent unless the script says
otherwise. -/
def jsonMediaType : Text := "application/json".toList

namespace Request

/-- The parameters as they stand in an address. -/
def queryString (request : Request) : Text :=
  Text.join ['&'] (request.params.entries.map fun entry => entry.1 ++ '=' :: entry.2)

/-- The address of a request: base, path and, after a question mark, the
parameters. -/
def target (request : Request) : Text :=
  request.baseUrl ++ request.path ++
    if request.params.isEmpty then [] else '?' :: request.queryString

/-- Whether the body is sent. -/
def sendsBody (request : Request) : Bool :=
  !request.body.isEmpty && bodyMethods.contains request.method

end Request

/-! ## Drafts -/

/-- The request in progress.  {lit}`freshScenario` holds from the start of a
scenario until a base address is given. -/
structure Draft where
  method : Text := []
  baseUrl : Text := []
  path : Text := []
  headers : OrderedMap Text Text := ∅
  params : OrderedMap Text Text := ∅
  body : Text := []
  freshScenario : Bool := false
deriving DecidableEq, Repr, Inhabited

namespace Draft

/-- Whether a method and a base address are known. -/
def isComplete (draft : Draft) : Bool :=
  !draft.method.isEmpty && !draft.baseUrl.isEmpty

/-- A draft is complete when it has a method and a base address. -/
theorem isComplete_iff (draft : Draft) :
    draft.isComplete = true ↔ draft.method ≠ [] ∧ draft.baseUrl ≠ [] := by
  simp [isComplete]

/-- Drop everything but the base address and the mark of a fresh scenario. -/
def reset (draft : Draft) : Draft :=
  { baseUrl := draft.baseUrl, freshScenario := draft.freshScenario }

/-- A scenario starts: nothing but the base address is kept. -/
def startScenario (draft : Draft) : Draft :=
  { baseUrl := draft.baseUrl, freshScenario := true }

/-- Give the base address. -/
def setBaseUrl (draft : Draft) (url : Text) : Draft :=
  { draft with baseUrl := url, freshScenario := false }

/-- Give the method, in upper case, and with it the headers that every request
carries unless the script has set them. -/
def setMethod (draft : Draft) (method : Text) : Draft :=
  let method := Text.upper method
  let accepting := draft.headers.insertNew "Accept".toList jsonMediaType
  { draft with
    method := method
    headers :=
      if bodyMethods.contains method then
        accepting.insertNew "Content-Type".toList jsonMediaType
      else accepting }

/-- Give the path. -/
def setPath (draft : Draft) (path : Text) : Draft :=
  { draft with path := path }

/-- Give the body. -/
def setBody (draft : Draft) (body : Text) : Draft :=
  { draft with body := body }

/-- Give a header. -/
def setHeader (draft : Draft) (name value : Text) : Draft :=
  { draft with headers := draft.headers.insert name value }

/-- Give a parameter. -/
def setParam (draft : Draft) (name value : Text) : Draft :=
  { draft with params := draft.params.insert name value }

/-- The request that a draft stands for. -/
def toRequest (draft : Draft) : Request where
  method := draft.method
  baseUrl := draft.baseUrl
  path := draft.path
  headers := draft.headers
  params := draft.params
  body := draft.body

/-- A reset keeps the base address. -/
@[simp]
theorem reset_baseUrl (draft : Draft) : draft.reset.baseUrl = draft.baseUrl := rfl

@[simp]
theorem reset_method (draft : Draft) : draft.reset.method = [] := rfl

@[simp]
theorem reset_freshScenario (draft : Draft) :
    draft.reset.freshScenario = draft.freshScenario := rfl

/-- A new scenario keeps the base address. -/
@[simp]
theorem startScenario_baseUrl (draft : Draft) : draft.startScenario.baseUrl = draft.baseUrl := rfl

@[simp]
theorem startScenario_freshScenario (draft : Draft) :
    draft.startScenario.freshScenario = true := rfl

@[simp]
theorem setBaseUrl_method (draft : Draft) (url : Text) :
    (draft.setBaseUrl url).method = draft.method := rfl

@[simp]
theorem setBaseUrl_baseUrl (draft : Draft) (url : Text) :
    (draft.setBaseUrl url).baseUrl = url := rfl

@[simp]
theorem setMethod_baseUrl (draft : Draft) (method : Text) :
    (draft.setMethod method).baseUrl = draft.baseUrl := rfl

@[simp]
theorem setMethod_method (draft : Draft) (method : Text) :
    (draft.setMethod method).method = Text.upper method := rfl

/-- A draft that has been reset has no method, so it is not complete. -/
@[simp]
theorem isComplete_reset (draft : Draft) : draft.reset.isComplete = false := rfl

/-- A new scenario has no method, so its draft is not complete. -/
@[simp]
theorem isComplete_startScenario (draft : Draft) : draft.startScenario.isComplete = false := rfl

end Draft

end RequestScript
