import RequestScript.Statement
import RequestScript.Text.Quoted
import RequestScript.Text.Upper

/-!
# Reading statements

A line is read in two steps: its first two words select the kind of statement, and
the kind says where the operands stand.  Names are words, texts stand between
quotes, and values follow an equals sign.

Main results:

- Definition {lit}`Statement.ofText`: the statement of a line whose variables
  are replaced.
- Theorem {lit}`ofText_boundary`: a scenario line is never read as anything
  else.
-/

namespace RequestScript

/-- The wording of a reason. -/
def Malformation.message : Malformation → Text
  | .missingOperand => "missing operand".toList
  | .missingAssignment => "missing '=' in assignment".toList
  | .missingValue name => "no value for variable ".toList ++ Text.quoted name

namespace Statement

/-- The beginnings of a line that starts a scenario. -/
def boundaryMarks : List Text :=
  ["Scenario:".toList, "@".toList]

/-- Whether a line starts a scenario. -/
def isBoundary (text : Text) : Bool :=
  boundaryMarks.any (·.isPrefixOf text)

/-- The word after the leader and the keyword. -/
def operand (text : Text) : Except Malformation Text :=
  match (Text.words text)[2]? with
  | some word => .ok word
  | none => .error .missingOperand

/-- The name before the equals sign and the text after it, if the sign is
there. -/
def assignment (text : Text) : Except Malformation (Text × Option Text) := do
  let (left, right) := Text.splitAtFirst '=' text
  return (← operand left, right)

/-- The name and the value of an assignment that needs its sign. -/
def fullAssignment (text : Text) : Except Malformation (Text × Text) :=
  match Text.splitAtFirst '=' text with
  | (_, none) => .error .missingAssignment
  | (left, some right) => do return (← operand left, right)

/-- Read the operands of a statement.  The name of a request variable is taken
from the line as it was written. -/
def ofParts (leader : Leader) (keyword : Keyword) (text written : Text) :
    Except Malformation Statement :=
  match keyword with
  | .define => do
    let (name, value) ← assignment text
    return .definition leader name (Text.trim (value.getD []))
  | .url => .ok (.url leader (Literal.quotedPart text))
  | .path => .ok (.path leader (Literal.quotedPart text))
  | .header => do
    let (name, value) ← fullAssignment text
    return .header leader name (Literal.removeQuotes value)
  | .method => do return .method leader (Text.upper (← operand text))
  | .param => do
    let (name, value) ← fullAssignment text
    return .param leader name (Literal.removeQuotes value)
  | .request => do return .request leader (← operand written)

/-- The leader and the keyword that a line begins with. -/
def opening? (text : Text) : Option (Leader × Keyword) :=
  match Text.words text with
  | first :: second :: _ => do
    let leader ← Leader.ofText? first
    let keyword ← Keyword.ofText? second
    if keyword.admits leader then some (leader, keyword) else none
  | _ => none

/-- What a line states: {lit}`text` is the line with its variables replaced,
{lit}`written` the line as it stands in the script.  A line that states nothing
gives {lit}`none`. -/
def ofText (text written : Text) : Except Malformation (Option Statement) :=
  if isBoundary text then .ok (some (.boundary text))
  else
    match opening? text with
    | none => .ok none
    | some (leader, keyword) => (ofParts leader keyword text written).map some

/-- A scenario line is never read as anything else. -/
theorem ofText_boundary {text : Text} (h : isBoundary text = true) (written : Text) :
    ofText text written = .ok (some (.boundary text)) := by
  simp [ofText, h]

/-- A line without a leader and a keyword states nothing. -/
theorem ofText_unrecognized {text : Text} (hb : isBoundary text = false)
    (ho : opening? text = none) (written : Text) : ofText text written = .ok none := by
  simp [ofText, hb, ho]

end Statement

end RequestScript
