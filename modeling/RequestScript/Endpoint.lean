import RequestScript.Conversion
import RequestScript.Settings

/-!
# The service

The service answers four questions: whether it is there, which feature files there
are, what the commands of one of them are, and what the commands of a text are.  It
refuses what it can not answer with a status and a reason, and tells events while
it converts.  The stream it tells them on takes every text, so telling never fails:
where the path of a feature file has an octet of no character, an output that is
strict about UTF-8 would fail to take the events of the file.

Main results:

- Definition {lit}`Endpoint.convertFeature`: the answer for a feature file.
- Definition {lit}`Endpoint.convertContent`: the answer for a text.
-/

namespace RequestScript

namespace Endpoint

/-- Why a request is refused. -/
inductive Refusal where
  | noSuchFeature (name : Text)
  | unreadable (cause : Input.Fault)
  | malformed (cause : Scan.Failure)
deriving DecidableEq, Repr

/-- The status of a refusal. -/
def Refusal.status : Refusal → Nat
  | .noSuchFeature _ => 404
  | .unreadable _ => 500
  | .malformed _ => 422

/-- The reason of a refusal. -/
def Refusal.detail : Refusal → Text
  | .noSuchFeature name => "Feature file not found: ".toList ++ name
  | .unreadable cause => cause.message
  | .malformed cause => cause.message

/-- Why there is no answer: the request is refused, or something fails that the
service does not expect. -/
inductive Failure where
  | refused (cause : Refusal)
  | unfound (cause : Input.SearchFault)
  | unread (cause : Input.Fault)

/-- An answer with the events that were told on the way. -/
structure Answer where
  events : List Event
  result : Except Failure (List Text)

/-- What is sent back: the commands, and how many they are. -/
structure Response where
  commands : List Text
  count : Nat
deriving DecidableEq, Repr

/-- The response to a request, or why there is none. -/
def Answer.response (answer : Answer) : Except Failure Response :=
  answer.result.map fun commands => ⟨commands, commands.length⟩

/-! ## Health -/

/-- What the service says when it is asked whether it is there. -/
def health : List (Text × Text) :=
  [("status".toList, "ok".toList), ("service".toList, "feature2curl".toList)]

/-! ## Commands -/

/-- The commands of a text. -/
def convert (logger : Logger) (content : Text) : Answer :=
  let events := Conversion.scanEvents logger content
  match Script.commands content with
  | .error failure =>
    let failed := logger.event .error "conversion.failed".toList
      (.ofList [("error".toList, .text failure.message),
        ("line_no".toList, .int failure.lineNumber)])
    ⟨events ++ [failed], .error (.refused (.malformed failure))⟩
  | .ok commands =>
    let done := logger.event .info "conversion.done".toList
      (.ofList [("commands".toList, .int commands.length)])
    ⟨events ++ [done], .ok commands⟩

/-- A logger that tells where a script comes from. -/
def loggerFor (source : Text) : Logger :=
  ({} : Logger).bind (.ofList [("source".toList, .text source)])

/-- The commands of a text that came with a request. -/
def convertContent (content : Text) : Answer :=
  convert (loggerFor "inline".toList) content

/-- Where the service finds feature files. -/
def inputOf (settings : Settings) : Input :=
  ⟨settings.featuresDirectory, settings.pattern⟩

/-- The names of the feature files. -/
def features (settings : Settings) (tree : FileTree) : Except Input.SearchFault (List Text) :=
  ((inputOf settings).files tree).map (List.map Path.stem)

/-- The commands of the first feature file with a name.  A file that is no text is
not expected. -/
def convertFeature (settings : Settings) (tree : FileTree) (name : Text) : Answer :=
  match (inputOf settings).find? tree name with
  | .error fault => ⟨[], .error (.unfound fault)⟩
  | .ok none => ⟨[], .error (.refused (.noSuchFeature name))⟩
  | .ok (some path) =>
    let logger := loggerFor path.text
    match Input.read tree path with
    | .ok content => convert logger content
    | .error (.unreadable file cause) =>
      let fault := Input.Fault.unreadable file cause
      let failed := logger.event .error "conversion.read_failed".toList
        (.ofList [("error".toList, .text fault.message)])
      ⟨[failed], .error (.refused (.unreadable fault))⟩
    | .error fault => ⟨[], .error (.unread fault)⟩

/-! ## Bodies -/

/-- Why the body of a request holds no text. -/
inductive BodyFault where
  | missing
  | notText
deriving DecidableEq, Repr

/-- The name of a fault of a body. -/
def BodyFault.kind : BodyFault → Text
  | .missing => "missing".toList
  | .notText => "string_type".toList

/-- The wording of a fault of a body. -/
def BodyFault.message : BodyFault → Text
  | .missing => "Field required".toList
  | .notText => "Input should be a valid string".toList

/-- The field of a body that holds a script. -/
def contentField : Text := "content".toList

/-- The script in the body of a request. -/
def contentOf (body : Fields) : Except BodyFault Text :=
  match body.get? contentField with
  | none => .error .missing
  | some (.text content) => .ok content
  | some _ => .error .notText

/-- A text that came with a request is converted as a feature file with this text
is, but for where its events say it comes from. -/
theorem result_convert (first second : Logger) (content : Text) :
    (convert first content).result = (convert second content).result := by
  unfold convert
  split <;> simp_all

end Endpoint

end RequestScript
