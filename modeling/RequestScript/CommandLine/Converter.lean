import RequestScript.CommandLine.Arguments
import RequestScript.CommandLine.Host
import RequestScript.Conversion
import RequestScript.Settings.Source

/-!
# The converter

The converter does one of two things.  {lit}`convert` converts every feature file
of a directory and sums up what became of them; {lit}`show` writes the commands of
one file.  Words that name neither are words for {lit}`convert`.

A run of the converter is a value: the files it leaves, what it writes on its two
outputs, and how it ends.  It ends with an exit code, or, for faults that the
converter does not expect, without one.

The output may not take what is written to it.  That is a fault like others and is
reported as such, but where the report of a fault is itself not taken nothing is left
to catch that.  A run that names no host is one whose output takes every text.  The
output for diagnostics escapes what it can not encode, so it takes every text on
every host; diagnostics stand here as they are before that.

Main results:

- Definition {lit}`Converter.run`: a run.
- Theorem {lit}`Converter.run_nil`: the converter converts when it is started
  without words.
- Theorem {lit}`Converter.tell_plain`: a run whose output takes every text writes all
  that it has to tell.
-/

namespace RequestScript

namespace Converter

open CommandLine

/-! ## Actions -/

/-- What the converter can do. -/
inductive Action where
  | convert
  | show
deriving DecidableEq, Repr

/-- How an action is called. -/
def Action.name : Action → Text
  | .convert => "convert".toList
  | .show => "show".toList

/-- The action with a name. -/
def Action.ofName? (name : Text) : Option Action :=
  [Action.convert, Action.show].find? (·.name = name)

@[simp]
theorem Action.ofName?_name (action : Action) : Action.ofName? action.name = some action := by
  cases action <;> decide

/-- What a switch of {lit}`convert` chooses. -/
inductive Choice where
  | setting (setting : Setting)
  | settingsFile
deriving DecidableEq, Repr

/-- A switch with a text. -/
def textSwitch (name : String) (choice : Choice) : Switch Choice :=
  ⟨name.toList, .text, choice⟩

/-- How the converter is started. -/
def grammar : Grammar Choice where
  program := "convert_features.py".toList
  usage := ["usage: convert_features.py [-h] \x7bconvert,show\x7d ...".toList]
  about :=
    ["Convert Karate feature files to curl commands".toList,
      [],
      "positional arguments:".toList,
      "  \x7bconvert,show\x7d".toList,
      "    convert       Convert every feature file in a directory".toList,
      "    show          Print the curl commands of one feature file".toList,
      [],
      "options:".toList,
      "  -h, --help      show this help message and exit".toList]
  switches := []

/-- How {lit}`convert` is started. -/
def convertGrammar : Grammar Choice where
  program := "convert_features.py convert".toList
  usage :=
    ["usage: convert_features.py convert [-h] [--features-dir FEATURES_DIR]".toList,
      "                                   [--output-dir OUTPUT_DIR]".toList,
      "                                   [--pattern PATTERN] [--config CONFIG]".toList,
      "                                   [--log-level LOG_LEVEL]".toList]
  about :=
    ["options:".toList,
      "  -h, --help            show this help message and exit".toList,
      "  --features-dir FEATURES_DIR".toList,
      "  --output-dir OUTPUT_DIR".toList,
      "  --pattern PATTERN".toList,
      "  --config CONFIG".toList,
      "  --log-level LOG_LEVEL".toList]
  switches :=
    [textSwitch "--features-dir" (.setting .featuresDirectory),
      textSwitch "--output-dir" (.setting .outputDirectory),
      textSwitch "--pattern" (.setting .pattern),
      textSwitch "--config" .settingsFile,
      textSwitch "--log-level" (.setting .logLevel)]

/-- How {lit}`show` is started. -/
def showGrammar : Grammar Choice where
  program := "convert_features.py show".toList
  usage := ["usage: convert_features.py show [-h] feature_file".toList]
  about :=
    ["positional arguments:".toList,
      "  feature_file".toList,
      [],
      "options:".toList,
      "  -h, --help    show this help message and exit".toList]
  switches := []
  operand := some "feature_file".toList

/-- How an action is asked for. -/
def Action.grammar : Action → Grammar Choice
  | .convert => convertGrammar
  | .show => showGrammar

/-! ## Runs -/

/-- Why an action fails. -/
inductive Fault where
  | settings (cause : Settings.Fault)
  | noSuchLevel (name : Text)
  | unfound (cause : Input.SearchFault)
  | unread (cause : Input.Fault)
  | malformed (cause : Scan.Failure)
  | untaken (text : Text)

/-- The wording of a fault on a host. -/
def Fault.message (fault : Fault) (host : Host := .plain) : Text :=
  match fault with
  | .settings cause => cause.message host.reason
  | .noSuchLevel name => "Level '".toList ++ name ++ "' does not exist".toList
  | .unfound cause => cause.message
  | .unread cause => cause.message
  | .malformed cause => cause.message
  | .untaken text => host.complaint text

/-- How a fault is told. -/
def Fault.report (fault : Fault) (host : Host := .plain) : Text :=
  "ERROR: ".toList ++ fault.message host ++ ['\n']

/-- Whether the converter expects a write to the settings to be refused. -/
def expectsWriteFault : Settings.WriteFault → Bool
  | .unknown _ => true
  | .tooLong => true
  | .notText _ => false
  | .octets => false

/-- Whether the converter expects a pattern to be none. -/
def expectsPatternFault : Glob.Fault → Bool
  | .empty => true
  | .nestedDoubleStar => true
  | _ => false

/-- Whether the converter expects a fault, so that it reports it and ends in
order. -/
def Fault.isExpected : Fault → Bool
  | .settings (.refused cause) => expectsWriteFault cause
  | .settings (.noValue cause) => cause.isOfValue
  | .unfound (.pattern cause) => expectsPatternFault cause
  | .unfound (.path _) => false
  | _ => true

/-- How a run ends. -/
inductive Ending where
  | exit (code : Nat)
  | broken (cause : Fault)

/-- A run: the files it leaves, what it writes, and how it ends. -/
structure Run where
  tree : FileTree
  output : Text := []
  diagnostics : Text := []
  ending : Ending := .exit 0

/-- A run that fails, after some diagnostics and some output.  Of a fault that is
expected it tells, if the output takes that. -/
def failed (tree : FileTree) (diagnostics : Text) (fault : Fault) (host : Host := .plain)
    (written : Text := []) : Run :=
  if fault.isExpected then
    if host.takesText (fault.report host) then
      { tree, diagnostics, output := written ++ fault.report host, ending := .exit 1 }
    else { tree, diagnostics, output := written, ending := .broken (.untaken (fault.report host)) }
  else { tree, diagnostics, output := written, ending := .broken fault }

/-- Where the output takes every text, every fault that is expected is told. -/
theorem failed_plain (tree : FileTree) (diagnostics : Text) {fault : Fault}
    (h : fault.isExpected = true) :
    failed tree diagnostics fault =
      { tree, diagnostics, output := fault.report, ending := .exit 1 } := by
  rw [failed, if_pos h, if_pos (Host.takesText_plain _)]
  rfl

/-- A run that writes texts one after another and ends with a code.  It fails at the
first text that the output does not take. -/
def tell (tree : FileTree) (diagnostics : Text) (texts : List Text) (code : Nat)
    (host : Host := .plain) : Run :=
  let written := (texts.takeWhile host.takesText).flatten
  match texts.find? fun text => !host.takesText text with
  | none => { tree, diagnostics, output := written, ending := .exit code }
  | some text => failed tree diagnostics (.untaken text) host written

/-- A run whose output takes every text writes all that it has to tell. -/
@[simp]
theorem tell_plain (tree : FileTree) (diagnostics : Text) (texts : List Text) (code : Nat) :
    tell tree diagnostics texts code =
      { tree, diagnostics, output := texts.flatten, ending := .exit code } := by
  have hnone : (texts.find? fun text => !Host.plain.takesText text) = none := by simp
  rw [tell, hnone, Host.takeWhile_takesText_plain]

/-- A run that ends because its words say so.  Help is ASCII, so every output takes
it. -/
def stopped (grammar : Grammar Choice) (tree : FileTree) : Stop → Run
  | .help => { tree, output := grammar.help }
  | .fault cause => { tree, diagnostics := grammar.complaint cause, ending := .exit 2 }

/-- The line of a file that is not converted. -/
def failedLine (source : Path) (message : Text) : Text :=
  "FAILED: ".toList ++ source.text ++ ": ".toList ++ message ++ ['\n']

/-- The sum of a report, line by line. -/
def summary (report : Report) : List Text :=
  ["Files: ".toList ++ Text.ofNat report.outcomes.length ++ ['\n'],
    "Commands: ".toList ++ Text.ofInt report.commandCount ++ ['\n']] ++
    report.failed.map fun outcome =>
      failedLine outcome.source (outcome.errorMessage.getD [])

/-- What a switch offers to a setting; a switch without a value offers an empty
list. -/
def offerOf (value : Option Text) : Settings.Offer :=
  match value with
  | some text => .text text
  | none => .ofValue (.list [])

/-- What the words offer to the settings: the last value of each switch. -/
def chosen (arguments : Arguments Choice) : List (Value × Settings.Offer) :=
  Setting.all.filterMap fun setting =>
    (arguments.last? (.setting setting)).map fun value => (.text setting.name, offerOf value)

/-- The settings file that the words name, if any. -/
def settingsFile (arguments : Arguments Choice) : Option Path :=
  match (arguments.last? .settingsFile).join with
  | none => none
  | some [] => none
  | some file => some (Path.ofText file)

/-- Convert with settings, and show the events of a level and above. -/
def convertWith (settings : Settings) (level : Level) (tree : FileTree)
    (host : Host := .plain) : Run :=
  let input : Input := ⟨settings.featuresDirectory, settings.pattern⟩
  let output : Output := ⟨settings.outputDirectory, settings.outputSuffix⟩
  let done := Conversion.convertAll input output {} tree
  let diagnostics := Event.diagnostics level done.events
  match done.result with
  | .error fault => failed done.tree diagnostics (.unfound fault) host
  | .ok report => tell done.tree diagnostics (summary report) (if report.ok then 0 else 1) host

/-- The settings that the words, the environment and a settings file give. -/
def settingsOf (arguments : Arguments Choice) (environment : Environment) (tree : FileTree) :
    Except Settings.Fault Settings := do
  let settings ← Settings.load (settingsFile arguments) environment tree
  (settings.merge (chosen arguments)).mapError .refused

/-- Convert with the settings that are given, if they name a level. -/
def convert (arguments : Arguments Choice) (environment : Environment) (tree : FileTree)
    (host : Host := .plain) : Run :=
  match settingsOf arguments environment tree with
  | .error fault => failed tree [] (.settings fault) host
  | .ok settings =>
    let name := Text.upper settings.logLevel
    match Level.ofName? name with
    | none => failed tree [] (.noSuchLevel name) host
    | some level => convertWith settings level tree host

/-- Write the commands of one file. -/
def «show» (path : Path) (tree : FileTree) (host : Host := .plain) : Run :=
  match Input.read tree path with
  | .error fault => failed tree [] (.unread fault) host
  | .ok content =>
    match Script.commands content with
    | .error fault => failed tree [] (.malformed fault) host
    | .ok commands => tell tree [] [Command.format commands] 0 host

/-- Perform an action. -/
def perform (action : Action) (words : List Text) (environment : Environment)
    (tree : FileTree) (host : Host := .plain) : Run :=
  match action.grammar.read words with
  | .error stop => stopped action.grammar tree stop
  | .ok arguments =>
    if arguments.leftOver.isEmpty then
      match action with
      | .convert => convert arguments environment tree host
      | .show => «show» (Path.ofText (arguments.operand.getD [])) tree host
    else stopped grammar tree (.fault (.unknown arguments.leftOver))

/-- Run the converter.  Words that begin with no action, and do not ask for help,
are words for the first action. -/
def run (words : List Text) (environment : Environment) (tree : FileTree)
    (host : Host := .plain) : Run :=
  match words with
  | [] => perform .convert [] environment tree host
  | word :: rest =>
    match Action.ofName? word with
    | some action => perform action rest environment tree host
    | none =>
      if word = "-h".toList || word = helpName then stopped grammar tree .help
      else perform .convert words environment tree host

/-- The converter converts when it is started without words. -/
@[simp]
theorem run_nil (environment : Environment) (tree : FileTree) (host : Host) :
    run [] environment tree host = perform .convert [] environment tree host := rfl

end Converter

end RequestScript
