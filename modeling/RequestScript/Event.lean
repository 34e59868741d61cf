import RequestScript.OrderedMap
import RequestScript.Text.Blank
import RequestScript.Value

/-!
# Log events

Whatever happens during a conversion is told as an event: a level, a name and
fields.  A logger carries fields that it adds to every event.  An event is written
in two forms: as a record, which is the name and all fields in JSON, and as a
diagnostic line for people.

The streams that events are written to take every text here.  An output that is
strict about UTF-8 does not: it has no octets for a character that stands in for an
octet of no character, such as the path of a file may have, and a record with one
can not be printed on it.

Main results:

- Definition {lit}`Event.record` and definition {lit}`Event.summary`: the two
  forms.
- Theorem {lit}`bind_bound`: bound fields are merged in the order of binding.
-/

namespace RequestScript

/-- How serious an event is. -/
inductive Level where
  | trace
  | debug
  | info
  | success
  | warning
  | error
  | critical
deriving DecidableEq, Repr

namespace Level

/-- The levels, from the least serious on. -/
def all : List Level :=
  [.trace, .debug, .info, .success, .warning, .error, .critical]

/-- The rank of a level. -/
def severity : Level → Nat
  | .trace => 5
  | .debug => 10
  | .info => 20
  | .success => 25
  | .warning => 30
  | .error => 40
  | .critical => 50

/-- The name of a level in a record. -/
def label : Level → Text
  | .trace => "trace".toList
  | .debug => "debug".toList
  | .info => "info".toList
  | .success => "success".toList
  | .warning => "warning".toList
  | .error => "error".toList
  | .critical => "critical".toList

/-- The name of a level in a diagnostic line. -/
def name : Level → Text
  | .trace => "TRACE".toList
  | .debug => "DEBUG".toList
  | .info => "INFO".toList
  | .success => "SUCCESS".toList
  | .warning => "WARNING".toList
  | .error => "ERROR".toList
  | .critical => "CRITICAL".toList

/-- The level with a name. -/
def ofName? (name : Text) : Option Level :=
  all.find? (·.name = name)

@[simp]
theorem ofName?_name (level : Level) : ofName? level.name = some level := by
  cases level <;> decide

end Level

/-- The fields of an event. -/
abbrev Fields := OrderedMap Text Value

/-- Something that happened. -/
structure Event where
  level : Level
  name : Text
  fields : Fields

namespace Event

/-- The fields of a record: those of the event, then its name and its level
unless fields of these names are there. -/
def recordFields (event : Event) : Fields :=
  (event.fields.insertNew "type".toList (.text event.name)).insertNew "level".toList
    (.text event.level.label)

/-- An event as a record, which is one line. -/
def record (event : Event) : Text :=
  event.name ++ ' ' ::
    Value.json (.map (event.recordFields.entries.map fun entry => (.text entry.1, entry.2)))

/-- An event for people: its name and its fields. -/
def summary (event : Event) : Text :=
  Text.stripEnd Text.isBlank
    (event.name ++ ' ' ::
      Text.join [' ']
        (event.fields.entries.map fun entry => entry.1 ++ '=' :: Value.display entry.2))

/-- The fields that go with a summary: the name of the event is among them, and
replaces a field of its name. -/
def attributes (event : Event) : Fields :=
  event.fields.insert "type".toList (.text event.name)

/-- An event as a diagnostic line, with the name of its level in a column. -/
def diagnostic (event : Event) : Text :=
  let name := event.level.name
  "| ".toList ++ name ++ List.replicate (7 - name.length) ' ' ++ " | ".toList ++ event.summary
    ++ ['\n']

/-- The records of events, each on its line, on a stream that takes every text. -/
def records (events : List Event) : Text :=
  events.flatMap fun event => event.record ++ ['\n']

/-- The diagnostic lines of the events that are serious enough. -/
def diagnostics (threshold : Level) (events : List Event) : Text :=
  (events.filter fun event => threshold.severity ≤ event.level.severity).flatMap diagnostic

end Event

/-- A source of events that adds its own fields to each of them. -/
structure Logger where
  bound : Fields := ∅

namespace Logger

/-- A logger that adds more fields. -/
def bind (logger : Logger) (fields : Fields) : Logger :=
  ⟨logger.bound.merge fields⟩

/-- The event that a logger tells. -/
def event (logger : Logger) (level : Level) (name : Text) (fields : Fields) : Event :=
  ⟨level, name, logger.bound.merge fields⟩

/-! ## Taken names -/

/-- A call to a logger. -/
inductive Call where
  | bind
  | tell (level : Level)
deriving DecidableEq, Repr

/-- The name of a call. -/
def Call.name : Call → Text
  | .bind => "bind".toList
  | .tell level => level.label

/-- The names that a call needs for the logger and for the name of the event.  No field
that is handed over with the call may have one of them. -/
def Call.takenNames : Call → List Text
  | .bind => ["self".toList]
  | .tell _ => ["self".toList, "event".toList]

/-- A field whose name a call has taken. -/
structure Clash where
  call : Call
  field : Text
deriving DecidableEq, Repr

/-- The first field of a call whose name is taken. -/
def Call.clash? (call : Call) (fields : Fields) : Option Clash :=
  (fields.keys.find? fun name => call.takenNames.contains name).map fun name => ⟨call, name⟩

/-- The wording of a clash in a logger with a name. -/
def Clash.message (logger : Text) (clash : Clash) : Text :=
  logger ++ '.' :: clash.call.name ++ "() got multiple values for argument ".toList
    ++ Text.quoted clash.field

/-- Bound fields are merged in the order of binding. -/
theorem bind_bound (logger : Logger) (fields : Fields) :
    (logger.bind fields).bound = logger.bound.merge fields := rfl

end Logger

end RequestScript
