import Mathlib.Data.List.TakeWhile
import RequestScript.CommandLine.Converter
import RequestScript.Proofs.Conversion.Turns
import RequestScript.Proofs.Files.Selection

/-!
# What the converter attempts

The words are read first and say what is asked for: an action with its arguments, help, or
nothing, since the words are wrong.  Then the action is attempted, which either meets a fault or
finds something to tell: the report of a conversion or the commands of one file.  What is told is
written text by text, and the first text that the output does not take is a fault in its turn.

Main results:

- Definition {lit}`Converter.asked`: what the words ask for.
- Definition {lit}`Converter.attempt`: what an action finds, or the fault that it meets.
- Theorem {lit}`Converter.run_eq`: a run does what its words ask for.
- Theorem {lit}`Converter.writes_tell`: texts are written up to the first that is not taken.
- Theorem {lit}`Converter.told_run`: a run tells what the action that it is asked for finds.
-/

namespace RequestScript
namespace Converter

open CommandLine

/-! ## What the words ask for -/

/-- An action with its arguments, or why the words give none and what tells so. -/
def askedOf (action : Action) (words : List Text) :
    Except (Grammar Choice × Stop) (Action × Arguments Choice) :=
  match action.grammar.read words with
  | .error stop => .error (action.grammar, stop)
  | .ok arguments =>
    if arguments.leftOver.isEmpty then .ok (action, arguments)
    else .error (grammar, .fault (.unknown arguments.leftOver))

/-- What words ask for. -/
def asked (words : List Text) : Except (Grammar Choice × Stop) (Action × Arguments Choice) :=
  match words with
  | [] => askedOf .convert []
  | word :: rest =>
    match Action.ofName? word with
    | some action => askedOf action rest
    | none =>
      if word = "-h".toList || word = helpName then .error (grammar, .help)
      else askedOf .convert words

/-- The ways to ask for the converter. -/
def grammars : List (Grammar Choice) :=
  [grammar, convertGrammar, showGrammar]

theorem mem_grammars_of_askedOf {action : Action} {words : List Text} {used : Grammar Choice}
    {stop : Stop} (h : askedOf action words = .error (used, stop)) : used ∈ grammars := by
  rw [askedOf] at h
  split at h
  · cases h
    cases action <;> simp [grammars, Action.grammar]
  · split at h
    · cases h
    · cases h
      simp [grammars]

/-- What tells that words ask for nothing is one of the ways to ask. -/
theorem mem_grammars_of_asked {words : List Text} {used : Grammar Choice} {stop : Stop}
    (h : asked words = .error (used, stop)) : used ∈ grammars := by
  unfold asked at h
  split at h
  · exact mem_grammars_of_askedOf h
  · split at h
    · exact mem_grammars_of_askedOf h
    · split at h
      · cases h
        simp [grammars]
      · exact mem_grammars_of_askedOf h

/-- The run of an action that has its arguments. -/
def act (action : Action) (arguments : Arguments Choice) (environment : Environment)
    (tree : FileTree) (host : Host) : Run :=
  match action with
  | .convert => convert arguments environment tree host
  | .show => «show» (Path.ofText (arguments.operand.getD [])) tree host

/-- The run of what is asked for. -/
def follow (environment : Environment) (tree : FileTree) (host : Host) :
    Except (Grammar Choice × Stop) (Action × Arguments Choice) → Run
  | .error (grammar, stop) => stopped grammar tree stop
  | .ok (action, arguments) => act action arguments environment tree host

/-- An action performs what its words ask for. -/
theorem perform_eq (action : Action) (words : List Text) (environment : Environment)
    (tree : FileTree) (host : Host) :
    perform action words environment tree host =
      follow environment tree host (askedOf action words) := by
  rw [perform, askedOf]
  cases action.grammar.read words with
  | error stop => rfl
  | ok arguments =>
    dsimp only
    split
    · cases action <;> rfl
    · rfl

/-- A run does what its words ask for. -/
theorem run_eq (words : List Text) (environment : Environment) (tree : FileTree) (host : Host) :
    run words environment tree host = follow environment tree host (asked words) := by
  unfold run asked
  cases words with
  | nil => exact perform_eq .convert [] environment tree host
  | cons word rest =>
    dsimp only
    cases Action.ofName? word with
    | some action => exact perform_eq action rest environment tree host
    | none =>
      dsimp only
      split
      · rfl
      · exact perform_eq .convert (word :: rest) environment tree host

/-! ## What is written -/

/-- A run writes texts and ends with a code.  If the output does not take one of them, the run has
written those before it, tells that it could not go on, and ends with 1. -/
inductive Writes (host : Host) (run : Run) (texts : List Text) (code : Nat) : Prop where
  | all (htaken : ∀ text ∈ texts, host.takesText text = true) (houtput : run.output = texts.flatten)
      (hending : run.ending = .exit code)
  | upTo {front : List Text} {text : Text} {back : List Text}
      (hsplit : texts = front ++ text :: back)
      (hfront : ∀ earlier ∈ front, host.takesText earlier = true)
      (huntaken : host.takesText text = false)
      (houtput : run.output = front.flatten ++ (Fault.untaken text).report host)
      (hending : run.ending = .exit 1)

/-- Whatever host it is, a text that is not taken can be told of. -/
theorem takesText_report_untaken (host : Host) (text : Text) :
    host.takesText ((Fault.untaken text).report host) = true := by
  have hreport : (Fault.untaken text).report host =
      "ERROR: ".toList ++ host.complaint text ++ ['\n'] := rfl
  have hfront : Text.isAscii "ERROR: ".toList = true := by decide
  have hend : Text.isAscii ['\n'] = true := rfl
  apply host.takesText_of_isAscii
  rw [hreport, Text.isAscii_append, Text.isAscii_append, hfront, host.isAscii_complaint, hend]
  rfl

/-- A fault about the output can always be told. -/
theorem failed_untaken (tree : FileTree) (diagnostics text : Text) (host : Host)
    (written : Text) :
    failed tree diagnostics (.untaken text) host written =
      { tree, diagnostics, output := written ++ (Fault.untaken text).report host,
        ending := .exit 1 } := by
  have hexpected : (Fault.untaken text).isExpected = true := rfl
  rw [failed, if_pos hexpected, if_pos (takesText_report_untaken host text)]

/-- What a run has to tell it writes, up to the first text that is not taken. -/
theorem writes_tell (tree : FileTree) (diagnostics : Text) (texts : List Text) (code : Nat)
    (host : Host) : Writes host (tell tree diagnostics texts code host) texts code := by
  rw [tell]
  cases hfound : texts.find? fun text => !host.takesText text with
  | none =>
    have htaken : ∀ text ∈ texts, host.takesText text = true := by
      simpa using List.find?_eq_none.mp hfound
    have hwritten : texts.takeWhile host.takesText = texts :=
      List.takeWhile_eq_self_iff.mpr htaken
    exact .all htaken (congrArg List.flatten hwritten) rfl
  | some text =>
    rcases List.find?_eq_some_iff_append.mp hfound with ⟨huntaken, front, back, hsplit, hfront⟩
    simp only [Bool.not_eq_true', Bool.not_not] at huntaken hfront
    have hwritten : texts.takeWhile host.takesText = front := by
      rw [hsplit, List.takeWhile_append_of_pos hfront, List.takeWhile_cons, huntaken]
      simp
    dsimp only
    rw [hwritten, failed_untaken]
    exact .upTo hsplit hfront huntaken rfl rfl

/-! ## What an action finds -/

/-- Where feature files are found. -/
def inputOf (settings : Settings) : Input :=
  ⟨settings.featuresDirectory, settings.pattern⟩

/-- Where commands go. -/
def outputOf (settings : Settings) : Output :=
  ⟨settings.outputDirectory, settings.outputSuffix⟩

/-- What an action finds when it meets no fault. -/
inductive Finding where
  | report (report : Report)
  | commands (commands : List Text)

/-- The texts that tell of what is found. -/
def Finding.texts : Finding → List Text
  | .report outcomes => summary outcomes
  | .commands found => [Command.format found]

/-- The code that tells of what is found. -/
def Finding.code : Finding → Nat
  | .report outcomes => if outcomes.ok then 0 else 1
  | .commands _ => 0

/-- The settings of a conversion, if they name a level. -/
def readied (arguments : Arguments Choice) (environment : Environment) (tree : FileTree) :
    Except Fault Settings := do
  let settings ← (settingsOf arguments environment tree).mapError .settings
  let name := Text.upper settings.logLevel
  if (Level.ofName? name).isSome then return settings
  else throw (.noSuchLevel name)

/-- What an action finds, or the fault that it meets. -/
def attempt (action : Action) (arguments : Arguments Choice) (environment : Environment)
    (tree : FileTree) : Except Fault Finding :=
  match action with
  | .convert => do
    let settings ← readied arguments environment tree
    let report ← (Conversion.convertAll (inputOf settings) (outputOf settings) {} tree).result
      |>.mapError .unfound
    return .report report
  | .show => do
    let content ← (Input.read tree (Path.ofText (arguments.operand.getD []))).mapError .unread
    let commands ← (Script.commands content).mapError .malformed
    return .commands commands

/-- How a run tells what an action has found. -/
inductive Told (host : Host) (run : Run) : Except Fault Finding → Prop where
  | fault {cause : Fault} (after : FileTree) (diagnostics : Text)
      (h : run = failed after diagnostics cause host) : Told host run (.error cause)
  | found {finding : Finding} (h : Writes host run finding.texts finding.code) :
      Told host run (.ok finding)

/-- A conversion tells the report of its turns, or the fault of its search. -/
theorem told_convertWith (settings : Settings) (level : Level) (tree : FileTree) (host : Host) :
    Told host (convertWith settings level tree host)
      (((Conversion.convertAll (inputOf settings) (outputOf settings) {} tree).result.mapError
        .unfound).map .report) := by
  unfold convertWith
  dsimp only [inputOf, outputOf]
  cases (Conversion.convertAll ⟨settings.featuresDirectory, settings.pattern⟩
      ⟨settings.outputDirectory, settings.outputSuffix⟩ {} tree).result with
  | error cause => exact .fault _ _ rfl
  | ok report =>
    dsimp only
    exact .found (writes_tell _ _ _ _ host)

/-- A file that is shown tells its commands, or the fault of reading or scanning it. -/
theorem told_show (path : Path) (tree : FileTree) (host : Host) :
    Told host («show» path tree host) (do
      let content ← (Input.read tree path).mapError .unread
      let commands ← (Script.commands content).mapError .malformed
      return .commands commands) := by
  rw [«show»]
  cases Input.read tree path with
  | error cause => exact .fault tree [] rfl
  | ok content =>
    simp only [Except.mapError, bind, Except.bind]
    cases Script.commands content with
    | error cause => exact .fault tree [] rfl
    | ok commands =>
      dsimp only
      exact .found (writes_tell _ _ _ _ host)

section Convert

variable {arguments : Arguments Choice} {environment : Environment} {tree : FileTree}
  {settings : Settings}

/-- A conversion is readied exactly when there are settings and they name a level. -/
theorem readied_eq_ok :
    readied arguments environment tree = .ok settings ↔
      settingsOf arguments environment tree = .ok settings ∧
        (Level.ofName? (Text.upper settings.logLevel)).isSome = true := by
  rw [readied]
  cases settingsOf arguments environment tree with
  | error cause => simp [Except.mapError, bind, Except.bind]
  | ok found =>
    by_cases hlevel : (Level.ofName? (Text.upper found.logLevel)).isSome = true
    · simp only [Except.mapError, bind, Except.bind, hlevel, pure, Except.pure, if_true,
        Except.ok.injEq]
      exact ⟨fun h => ⟨h, h ▸ hlevel⟩, And.left⟩
    · simp only [Except.mapError, bind, Except.bind, hlevel, throw, throwThe, MonadExceptOf.throw,
        Bool.false_eq_true, if_false, reduceCtorEq, Except.ok.injEq, false_iff]
      rintro ⟨rfl, h⟩
      exact hlevel h

/-- A conversion is not readied when there are no settings, or when they name no level. -/
theorem readied_eq_error {cause : Fault} :
    readied arguments environment tree = .error cause ↔
      (∃ found, settingsOf arguments environment tree = .error found ∧
          cause = .settings found) ∨
        ∃ settings, settingsOf arguments environment tree = .ok settings ∧
          Level.ofName? (Text.upper settings.logLevel) = none ∧
          cause = .noSuchLevel (Text.upper settings.logLevel) := by
  rw [readied]
  cases settingsOf arguments environment tree with
  | error found => simp [Except.mapError, bind, Except.bind, eq_comm]
  | ok found =>
    cases hlevel : Level.ofName? (Text.upper found.logLevel) with
    | some level => simp [Except.mapError, bind, Except.bind, hlevel, pure, Except.pure]
    | none =>
      simp [Except.mapError, bind, Except.bind, hlevel, throw, throwThe, MonadExceptOf.throw,
        eq_comm]

/-- A conversion that is readied is attempted by converting. -/
theorem attempt_convert_of_readied (h : readied arguments environment tree = .ok settings) :
    attempt .convert arguments environment tree =
      ((Conversion.convertAll (inputOf settings) (outputOf settings) {} tree).result.mapError
        .unfound).map .report := by
  rw [attempt, h]
  simp only [bind, Except.bind]
  cases (Conversion.convertAll (inputOf settings) (outputOf settings) {} tree).result <;> rfl

/-- A conversion that is not readied meets the fault that kept it from that. -/
theorem attempt_convert_of_not_readied {cause : Fault}
    (h : readied arguments environment tree = .error cause) :
    attempt .convert arguments environment tree = .error cause := by
  rw [attempt, h]
  rfl

/-- A conversion tells what it finds, or the fault that it meets. -/
theorem told_convert (arguments : Arguments Choice) (environment : Environment)
    (tree : FileTree) (host : Host) :
    Told host (convert arguments environment tree host)
      (attempt .convert arguments environment tree) := by
  rw [convert]
  cases hsettings : settingsOf arguments environment tree with
  | error found =>
    rw [attempt_convert_of_not_readied (readied_eq_error.mpr (Or.inl ⟨found, hsettings, rfl⟩))]
    exact .fault tree [] rfl
  | ok settings =>
    dsimp only
    cases hlevel : Level.ofName? (Text.upper settings.logLevel) with
    | none =>
      rw [attempt_convert_of_not_readied
        (readied_eq_error.mpr (Or.inr ⟨settings, hsettings, hlevel, rfl⟩))]
      exact .fault tree [] rfl
    | some level =>
      rw [attempt_convert_of_readied (readied_eq_ok.mpr ⟨hsettings, by rw [hlevel]; rfl⟩)]
      exact told_convertWith settings level tree host

end Convert

/-- An action that has its arguments tells what it finds. -/
theorem told_act (action : Action) (arguments : Arguments Choice) (environment : Environment)
    (tree : FileTree) (host : Host) :
    Told host (act action arguments environment tree host)
      (attempt action arguments environment tree) := by
  cases action with
  | convert => exact told_convert arguments environment tree host
  | «show» => exact told_show _ tree host

/-! ## Runs that do what they are asked for -/

section Told

variable {words : List Text} {environment : Environment} {tree : FileTree} {host : Host}
  {action : Action} {arguments : Arguments Choice}

/-- A run tells what the action that it is asked for finds. -/
theorem told_run (h : asked words = .ok (action, arguments)) :
    Told host (run words environment tree host) (attempt action arguments environment tree) := by
  rw [run_eq, h]
  exact told_act action arguments environment tree host

/-- What is found is written. -/
theorem writes_of_found (hasked : asked words = .ok (action, arguments)) {finding : Finding}
    (h : attempt action arguments environment tree = .ok finding) :
    Writes host (run words environment tree host) finding.texts finding.code := by
  have htold : Told host (run words environment tree host) _ := told_run hasked
  rw [h] at htold
  cases htold with
  | found hwrites => exact hwrites

/-- A fault that is met makes the run fail. -/
theorem exists_run_of_fault (host : Host) (hasked : asked words = .ok (action, arguments))
    {cause : Fault} (h : attempt action arguments environment tree = .error cause) :
    ∃ after diagnostics,
      run words environment tree host = failed after diagnostics cause host := by
  have htold : Told host (run words environment tree host) _ := told_run hasked
  rw [h] at htold
  cases htold with
  | fault after diagnostics hfailed => exact ⟨after, diagnostics, hfailed⟩

end Told

end Converter
end RequestScript
