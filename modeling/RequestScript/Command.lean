import RequestScript.Scan

/-!
# Commands

A finished request is written as one shell command that sends it: the method, the
headers, the address and, when the method sends one, the body.  Everything but the
method stands between single quotes.
-/

namespace RequestScript

namespace Command

/-- A text between single quotes. -/
def quote (text : Text) : Text :=
  '\'' :: text ++ ['\'']

/-- A body as it is written: without its newlines, and with a backslash before
each single quote. -/
def escapeBody (body : Text) : Text :=
  Text.replaceAll "'".toList "\\'".toList (Text.without (· == '\n') body)

/-- The option that carries a header. -/
def headerOption (entry : Text × Text) : Text :=
  "-H ".toList ++ quote (entry.1 ++ ": ".toList ++ entry.2)

/-- The parts of the command that sends a request. -/
def parts (request : Request) : List Text :=
  ("curl -X ".toList ++ request.method)
    :: request.headers.entries.map headerOption
    ++ quote request.target
    :: if request.sendsBody then ["-d ".toList ++ quote (escapeBody request.body)] else []

/-- The command that sends a request. -/
def render (request : Request) : Text :=
  Text.join [' '] (parts request)

/-- Commands as they are stored: a blank line follows each. -/
def format (commands : List Text) : Text :=
  commands.flatMap (· ++ "\n\n".toList)

@[simp]
theorem format_nil : format [] = [] := rfl

@[simp]
theorem format_cons (command : Text) (commands : List Text) :
    format (command :: commands) = command ++ "\n\n".toList ++ format commands := rfl

end Command

/-- The commands of a script, or the first fault in it. -/
def Script.commands (content : Text) : Except Scan.Failure (List Text) :=
  (Script.requests content).map (List.map Command.render)

end RequestScript
