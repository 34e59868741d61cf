import RequestScript.CommandLine.Arguments

/-!
# Starting the service

The service is started at an address and a port, and may watch its own files.  The
words it is started with either give these three or end the start.

Main results:

- Definition {lit}`Launcher.start`: what words lead to.
-/

namespace RequestScript

namespace Launcher

open CommandLine

/-- What a switch chooses. -/
inductive Choice where
  | host
  | port
  | reload
deriving DecidableEq, Repr

/-- How the service is started. -/
def grammar : Grammar Choice where
  program := "run_api.py".toList
  usage := ["usage: run_api.py [-h] [--host HOST] [--port PORT] [--reload]".toList]
  about :=
    ["Run the feature2curl API".toList,
      [],
      "options:".toList,
      "  -h, --help   show this help message and exit".toList,
      "  --host HOST".toList,
      "  --port PORT".toList,
      "  --reload".toList]
  switches :=
    [⟨"--host".toList, .text, .host⟩, ⟨"--port".toList, .number, .port⟩,
      ⟨"--reload".toList, .nothing, .reload⟩]

/-- Where the service listens, and whether it watches its own files.  Two hyphens alone
take the host or the port away. -/
structure Service where
  host : Option Text := some "0.0.0.0".toList
  port : Option Int := some 8000
  reload : Bool := false
deriving DecidableEq, Repr

/-- What a start leads to: the service, or an end with an output, diagnostics and
an exit code. -/
inductive Start where
  | serve (service : Service)
  | stop (output diagnostics : Text) (code : Nat)
deriving DecidableEq, Repr

/-- The service that arguments describe. -/
def serviceOf (arguments : Arguments Choice) : Service :=
  let service : Service := {}
  { host := (arguments.last? .host).getD service.host,
    port :=
      match arguments.last? .port with
      | some value => value.bind Text.readInt
      | none => service.port,
    reload := (arguments.last? .reload).isSome }

/-- What words lead to. -/
def start (words : List Text) : Start :=
  match grammar.readAll words with
  | .ok arguments => .serve (serviceOf arguments)
  | .error .help => .stop grammar.help [] 0
  | .error (.fault cause) => .stop [] (grammar.complaint cause) 2

/-- Without words the service starts as it stands. -/
@[simp]
theorem start_nil : start [] = .serve {} := rfl

end Launcher

end RequestScript
