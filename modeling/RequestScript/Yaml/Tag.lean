import RequestScript.Yaml.Token

/-!
# Tags

Every node of a YAML document has a tag that says what it stands for.  A tag is given
by its name, or it is found from the form of a scalar: words for truth values and for
nothing, whole numbers to several bases, numbers with a point, dates, and the two
special keys.  Every other scalar is a text.

Main results:

- Definition {lit}`Tag.ofText`: the tag with a name.
- Definition {lit}`Tag.ofPlain`: the tag of a scalar, found from its form.
-/

namespace RequestScript.Yaml

/-- What a node stands for. -/
inductive Tag where
  | null
  | bool
  | int
  | float
  | binary
  | timestamp
  | str
  | seq
  | omap
  | pairs
  | map
  | set
  | merge
  | value
  | other
deriving DecidableEq, Inhabited, Repr

/-- The part that the names of standard tags have in common. -/
def standardTags : Text := "tag:yaml.org,2002:".toList

/-- The names of the standard tags. -/
def Tag.names : List (String × Tag) :=
  [("null", .null), ("bool", .bool), ("int", .int), ("float", .float), ("binary", .binary),
    ("timestamp", .timestamp), ("str", .str), ("seq", .seq), ("omap", .omap),
    ("pairs", .pairs), ("map", .map), ("set", .set), ("merge", .merge), ("value", .value)]

/-- The tag with a full name. -/
def Tag.ofText (text : Text) : Tag :=
  ((names.find? fun entry => standardTags ++ entry.1.toList = text).map Prod.snd).getD .other

/-! ## Plain scalars -/

/-- The rest of a text after a sign. -/
def afterSign : Text → Text
  | '-' :: rest => rest
  | '+' :: rest => rest
  | rest => rest

/-- Whether a text starts with a digit and goes on with digits and
underscores. -/
def isDigitRun (text : Text) : Bool :=
  follows Char.isDigit text && text.all fun c => c.isDigit || c == '_'

/-- Whether a part of a number to the base sixty is one or two digits below
sixty. -/
def isSixtieth : Text → Bool
  | [c] => c.isDigit
  | [c, d] => '0' ≤ c && c ≤ '5' && d.isDigit
  | _ => false

/-- Whether a text is a number to the base sixty. -/
def isSexagesimal (text : Text) : Bool :=
  match text.splitOn ':' with
  | first :: second :: rest =>
    isDigitRun first && (second :: rest).all isSixtieth
  | _ => false

/-- Whether a plain scalar is a whole number. -/
def isInt (text : Text) : Bool :=
  let body := afterSign text
  let allOf (digits : String) (rest : Text) : Bool :=
    !rest.isEmpty && rest.all fun c => digits.toList.contains c
  match body with
  | ['0'] => true
  | '0' :: 'b' :: rest => allOf "01_" rest
  | '0' :: 'x' :: rest => allOf "0123456789abcdefABCDEF_" rest
  | '0' :: rest => allOf "01234567_" rest
  | rest => isDigitRun rest || isSexagesimal rest

/-- Whether a text is nothing or a power of ten with its sign. -/
def isPower : Text → Bool
  | [] => true
  | mark :: sign :: digits =>
    (mark == 'e' || mark == 'E') && (sign == '-' || sign == '+') && !digits.isEmpty
      && digits.all Char.isDigit
  | _ => false

/-- Whether a plain scalar is a number with a point. -/
def isFloat (text : Text) : Bool :=
  let isFractionRun (c : Char) : Bool := c.isDigit || c == '_'
  let body := afterSign text
  match Text.splitAtFirst '.' body with
  | (_, none) => false
  | ([], some rest) =>
    (["inf", "Inf", "INF"].any fun word => word.toList = rest)
      || body = text && (["nan", "NaN", "NAN"].any fun word => word.toList = rest)
      || body = text && follows Char.isDigit rest && isPower (rest.dropWhile isFractionRun)
  | (whole, some rest) =>
    isDigitRun whole && isPower (rest.dropWhile isFractionRun)
      || isSexagesimal whole && rest.all isFractionRun

/-- The parts of a date and, when it is there, of a time of day: hour, minute,
second, the digits of the fraction, and the distance from universal time in
seconds. -/
structure TimeParts where
  year : Nat
  month : Nat
  day : Nat
  time : Option (Nat × Nat × Nat × Text × Option Int)
deriving Repr

/-- The number of one or two digits at the start of a text, and the rest. -/
def shortNumber (text : Text) : Option (Nat × Text) := do
  let run := (text.take 2).takeWhile Char.isDigit
  return (← Text.readNat 10 run, text.drop run.length)

/-- The number of two digits at the start of a text, and the rest. -/
def twoDigits (text : Text) : Option (Nat × Text) := do
  let (n, rest) ← shortNumber text
  if text.length = rest.length + 2 then some (n, rest) else none

/-- The distance from universal time that ends a text. -/
def zone (text : Text) : Option (Option Int) :=
  match text.dropWhile fun c => c == ' ' || c == '\t' with
  | [] => if text.isEmpty then some none else none
  | ['Z'] => some (some 0)
  | sign :: rest => do
    if sign ≠ '-' && sign ≠ '+' then none
    let (hours, rest) ← shortNumber rest
    let minutes ←
      match rest with
      | [] => some 0
      | ':' :: rest =>
        match twoDigits rest with
        | some (minutes, []) => some minutes
        | _ => none
      | _ => none
    let seconds : Int := (hours * 60 + minutes) * 60
    return some (if sign = '-' then -seconds else seconds)

/-- The time of day that ends a text. -/
def timeOfDay (text : Text) : Option (Nat × Nat × Nat × Text × Option Int) := do
  let body ←
    match text with
    | c :: rest =>
      if c = 'T' || c = 't' then some rest
      else if c = ' ' || c = '\t' then some (rest.dropWhile fun d => d == ' ' || d == '\t')
      else none
    | [] => none
  let colon : Text → Option Text
    | ':' :: rest => some rest
    | _ => none
  let (hour, rest) ← shortNumber body
  let (minute, rest) ← twoDigits (← colon rest)
  let (second, rest) ← twoDigits (← colon rest)
  let (fraction, rest) :=
    match rest with
    | '.' :: rest => (rest.takeWhile Char.isDigit, rest.dropWhile Char.isDigit)
    | rest => ([], rest)
  return (hour, minute, second, fraction, ← zone rest)

/-- The parts of a date or a moment. -/
def timeParts (text : Text) : Option TimeParts := do
  let hyphen : Text → Option Text
    | '-' :: rest => some rest
    | _ => none
  let leading := text.take 4
  if leading.length < 4 || !leading.all Char.isDigit then none
  let year ← Text.readNat 10 leading
  let (month, rest) ← shortNumber (← hyphen (text.drop 4))
  let (day, rest) ← shortNumber (← hyphen rest)
  if rest.isEmpty then return ⟨year, month, day, none⟩
  else return ⟨year, month, day, some (← timeOfDay rest)⟩

/-- Whether a plain scalar is a date or a moment.  A date alone has ten
characters. -/
def isTimestamp (text : Text) : Bool :=
  match timeParts text with
  | some parts => parts.time.isSome || text.length = 10
  | none => false

/-- The words for true. -/
def trueWords : List Text :=
  ["yes", "Yes", "YES", "true", "True", "TRUE", "on", "On", "ON"].map String.toList

/-- The words for false. -/
def falseWords : List Text :=
  ["no", "No", "NO", "false", "False", "FALSE", "off", "Off", "OFF"].map String.toList

/-- The words for nothing. -/
def nullWords : List Text :=
  ["", "~", "null", "Null", "NULL"].map String.toList

/-- The marks that no scalar without quotes begins with. -/
def reservedWords : List Text :=
  ["!", "&", "*"].map String.toList

/-- A text without a newline at its end. -/
def withoutLastNewline (text : Text) : Text :=
  if text.getLast? = some '\n' then text.dropLast else text

/-- The tag of a line, found from its form. -/
def Tag.ofLine (line : Text) : Tag :=
  if trueWords.contains line || falseWords.contains line then .bool
  else if isFloat line then .float
  else if isInt line then .int
  else if nullWords.contains line then .null
  else if isTimestamp line then .timestamp
  else if line = "<<".toList then .merge
  else if line = "=".toList then .value
  else if reservedWords.contains line then .other
  else .str

/-- The tag of a scalar, found from its form.  A newline at its end is not looked
at. -/
def Tag.ofPlain (text : Text) : Tag :=
  if text = ['\n'] then .str else .ofLine (withoutLastNewline text)

example : Tag.ofPlain "5\n".toList = .int := by decide +kernel
example : Tag.ofPlain "0o8".toList = .str := by decide +kernel
example : Tag.ofPlain "1:30.5".toList = .float := by decide +kernel

end RequestScript.Yaml
