import RequestScript.Settings
import RequestScript.Yaml.Meaning

/-!
# Where settings come from

Settings are the defaults, written over by a settings file if there is one, and
then by the environment.  A settings file is a YAML mapping from names of settings
to values.  A variable of the environment counts only when it is not empty.  The
environment is the one that the program has when it loads its settings.

Of a file that is not YAML only its reader can say what is wrong, in words that are
no part of the settings.

Main results:

- Definition {lit}`Settings.load`: the settings that a file and an environment
  give.
-/

namespace RequestScript

/-- The variables that a program is started with. -/
abbrev Environment := OrderedMap Text Text

namespace Settings

/-- Why there are no settings. -/
inductive Fault where
  | unreadable (path : Path) (cause : FileTree.Fault)
  | unusablePath (cause : FileTree.Fault)
  | illFormed (path : Path)
  | notMapping (path : Path)
  | noValue (cause : Yaml.Fault)
  | refused (cause : WriteFault)

/-- The wording of a fault.  What is wrong in a file that is not YAML its reader has to
say. -/
def Fault.message (fault : Fault) (reason : Path → Text := fun _ => []) : Text :=
  match fault with
  | .unreadable path cause =>
    "Unable to read settings file ".toList ++ path.text ++ ": ".toList ++ cause.message
  | .unusablePath cause => cause.message
  | .illFormed path =>
    "Invalid YAML in settings file ".toList ++ path.text ++ ": ".toList ++ reason path
  | .notMapping path => "Settings file must contain a mapping: ".toList ++ path.text
  | .noValue cause => cause.message
  | .refused cause => cause.message

/-- What the text of a settings file stands for. -/
def graphOf (tree : FileTree) (path : Path) : Except Fault Yaml.Graph :=
  match tree.read path with
  | .error cause => .error (if cause.isRefusal then .unreadable path cause else .unusablePath cause)
  | .ok octets =>
    match Yaml.load (.ofOctets octets) with
    | .error .malformed => .error (.illFormed path)
    | .error cause => .error (.noValue cause)
    | .ok graph => .ok graph

/-- What a part of a settings file offers to a setting. -/
def offerOf (graph : Yaml.Graph) (datum : Yaml.Datum) : Offer :=
  match datum with
  | .scalar value _ => .ofValue value
  | .collection id => .other (graph.filling id).typeName ⟨fun _ => graph.value datum⟩

/-- The entries of a settings file.  A file without a document has none. -/
def entriesOf (tree : FileTree) (path : Path) : Except Fault (List (Value × Offer)) := do
  let graph ← graphOf tree path
  match graph.root with
  | .scalar .null _ => return []
  | .scalar .. => throw (.notMapping path)
  | .collection id =>
    match graph.filling id with
    | .map entries =>
      return entries.map fun entry => (graph.value entry.1, offerOf graph entry.2)
    | _ => throw (.notMapping path)

/-- Settings written over by a settings file. -/
def mergeFile (settings : Settings) (tree : FileTree) (path : Path) : Except Fault Settings := do
  match settings.merge (← entriesOf tree path) with
  | .ok settings => return settings
  | .error cause => .error (.refused cause)

/-- What the environment writes to a setting. -/
def environmentText (environment : Environment) (setting : Setting) : Option Text :=
  match environment.get? setting.variableName with
  | some [] => none
  | found => found

/-- What the environment writes to all settings. -/
def environmentTexts (environment : Environment) : List (Setting × Option Text) :=
  Setting.all.map fun setting => (setting, environmentText environment setting)

/-- The settings that a file and an environment give. -/
def load (file : Option Path) (environment : Environment) (tree : FileTree) :
    Except Fault Settings := do
  let settings ←
    match file with
    | some path => ({} : Settings).mergeFile tree path
    | none => pure {}
  return settings.override (environmentTexts environment)

end Settings

end RequestScript
