import RequestScript.FileTree
import RequestScript.Text.Upper
import RequestScript.Value

/-!
# Settings

A conversion has five settings: where feature files are, which of them are meant,
where command files go, how they end, and which events are shown.  Each of them has
a default and may be written several times; the last write counts, and writing
nothing changes nothing.

Main results:

- Definition {lit}`Settings.merge`: settings after a list of named writes.
- Theorem {lit}`Settings.value_put_self` and theorem
  {lit}`Settings.value_put_of_ne`: a write changes one setting only.
-/

namespace RequestScript

/-- The names of the settings. -/
inductive Setting where
  | featuresDirectory
  | outputDirectory
  | pattern
  | outputSuffix
  | logLevel
deriving DecidableEq, Repr

namespace Setting

/-- All settings, in the order in which they are listed. -/
def all : List Setting :=
  [.featuresDirectory, .outputDirectory, .pattern, .outputSuffix, .logLevel]

/-- How a setting is called. -/
def name : Setting → Text
  | .featuresDirectory => "features_dir".toList
  | .outputDirectory => "output_dir".toList
  | .pattern => "pattern".toList
  | .outputSuffix => "output_suffix".toList
  | .logLevel => "log_level".toList

/-- The setting with a name. -/
def ofName? (name : Text) : Option Setting :=
  all.find? (·.name = name)

/-- Whether a setting names a directory. -/
def isDirectory : Setting → Bool
  | .featuresDirectory => true
  | .outputDirectory => true
  | _ => false

@[simp]
theorem ofName?_name (setting : Setting) : ofName? setting.name = some setting := by
  cases setting <;> decide

/-- The variable of the environment that holds a setting. -/
def variableName (setting : Setting) : Text :=
  "FEATURE2CURL_".toList ++ Text.upper setting.name

example : variableName .logLevel = "FEATURE2CURL_LOG_LEVEL".toList := by decide +kernel

end Setting

/-- The settings of a conversion. -/
structure Settings where
  featuresDirectory : Path := Path.ofText "features".toList
  outputDirectory : Path := Path.ofText "generated".toList
  pattern : Text := "*.feature".toList
  outputSuffix : Text := ".txt".toList
  logLevel : Text := "INFO".toList
deriving DecidableEq, Repr

namespace Settings

/-- The written value of a setting. -/
def value (settings : Settings) : Setting → Text
  | .featuresDirectory => settings.featuresDirectory.text
  | .outputDirectory => settings.outputDirectory.text
  | .pattern => settings.pattern
  | .outputSuffix => settings.outputSuffix
  | .logLevel => settings.logLevel

/-- Write a text to a setting. -/
def put (settings : Settings) (setting : Setting) (text : Text) : Settings :=
  match setting with
  | .featuresDirectory => { settings with featuresDirectory := Path.ofText text }
  | .outputDirectory => { settings with outputDirectory := Path.ofText text }
  | .pattern => { settings with pattern := text }
  | .outputSuffix => { settings with outputSuffix := text }
  | .logLevel => { settings with logLevel := text }

/-- How a text is kept in a setting: a directory is kept as a path. -/
def kept (setting : Setting) (text : Text) : Text :=
  if setting.isDirectory then (Path.ofText text).text else text

@[simp]
theorem value_put_self (settings : Settings) (setting : Setting) (text : Text) :
    (settings.put setting text).value setting = kept setting text := by
  cases setting <;> rfl

/-- To put a text to one setting leaves the others as they are. -/
theorem value_put_of_ne (settings : Settings) {setting other : Setting} (h : other ≠ setting)
    (text : Text) : (settings.put setting text).value other = settings.value other := by
  cases setting <;> cases other <;> simp_all [value, put]

/-- A second write to a setting hides the first. -/
theorem put_put_self (settings : Settings) (setting : Setting) (first second : Text) :
    (settings.put setting first).put setting second = settings.put setting second := by
  cases setting <;> rfl

/-! ## Named writes -/

/-- What is offered to a setting: nothing, a text, octets, or something of another
type, whose value is looked at only where it is written. -/
inductive Offer where
  | nothing
  | text (text : Text)
  | octets (octets : List UInt8)
  | other (typeName : Text) (value : Thunk Value)

/-- What a value offers to a setting. -/
def Offer.ofValue : Value → Offer
  | .null => .nothing
  | .text written => .text written
  | .octets found => .octets found
  | value => .other value.typeName (.pure value)

/-- Why a list of named writes is refused. -/
inductive WriteFault where
  /-- No setting has this name. -/
  | unknown (name : Value)
  /-- A directory is given by something of a type that is no text. -/
  | notText (typeName : Text)
  /-- A directory is given by octets. -/
  | octets
  /-- A number has too many digits to be shown. -/
  | tooLong

/-- The wording of a refused write. -/
def WriteFault.message : WriteFault → Text
  | .unknown name => "Unknown setting: ".toList ++ name.display
  | .notText typeName => "expected str, bytes or os.PathLike object, not ".toList ++ typeName
  | .octets =>
    "argument should be a str object or an os.PathLike object returning str, not ".toList
      ++ "<class 'bytes'>".toList
  | .tooLong =>
    "Exceeds the limit (4300 digits) for integer string conversion".toList
      ++ "; use sys.set_int_max_str_digits() to increase the limit".toList

/-- The setting that a key names. -/
def settingOf? : Value → Option Setting
  | .text name => Setting.ofName? name
  | _ => none

/-- How a value is shown alone, unless it holds a number that is too long. -/
def shown (value : Value) : Except WriteFault Text :=
  if value.isTooLong then .error .tooLong else .ok value.display

/-- The text that an offer writes to a setting, if it offers anything. -/
def writtenText (setting : Setting) : Offer → Except WriteFault (Option Text)
  | .nothing => .ok none
  | .text text => .ok (some text)
  | .octets octets =>
    if setting.isDirectory then .error .octets else .ok (some (Octets.quoted octets))
  | .other typeName value =>
    if setting.isDirectory then .error (.notText typeName) else (shown value.get).map some

/-- Why a key that names no setting is refused. -/
def refusalOf (key : Value) : WriteFault :=
  if key.isTooLong then .tooLong else .unknown key

/-- Write what is offered to the setting that a key names. -/
def write (settings : Settings) (key : Value) (offer : Offer) : Except WriteFault Settings :=
  match settingOf? key with
  | none => .error (refusalOf key)
  | some setting => do
    match ← writtenText setting offer with
    | none => return settings
    | some text => return settings.put setting text

/-- Write what is offered to settings, in order. -/
def merge (settings : Settings) : List (Value × Offer) → Except WriteFault Settings
  | [] => .ok settings
  | (key, offer) :: rest => do (← settings.write key offer).merge rest

@[simp]
theorem merge_nil (settings : Settings) : settings.merge [] = .ok settings := rfl

theorem merge_cons (settings : Settings) (key : Value) (offer : Offer)
    (rest : List (Value × Offer)) :
    settings.merge ((key, offer) :: rest) =
      (do (← settings.write key offer).merge rest) := rfl

/-- Write texts to settings, where there are any. -/
def override (settings : Settings) (texts : List (Setting × Option Text)) : Settings :=
  texts.foldl
    (fun settings entry =>
      match entry.2 with
      | some text => settings.put entry.1 text
      | none => settings)
    settings

@[simp]
theorem override_nil (settings : Settings) : settings.override [] = settings := rfl

@[simp]
theorem override_cons_none (settings : Settings) (setting : Setting)
    (texts : List (Setting × Option Text)) :
    settings.override ((setting, none) :: texts) = settings.override texts := rfl

@[simp]
theorem override_cons_some (settings : Settings) (setting : Setting) (text : Text)
    (texts : List (Setting × Option Text)) :
    settings.override ((setting, some text) :: texts) =
      (settings.put setting text).override texts := rfl

end Settings

end RequestScript
