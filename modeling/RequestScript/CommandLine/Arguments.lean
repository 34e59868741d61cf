import RequestScript.Text.Numeral
import RequestScript.Text.Quoted
import RequestScript.Text.Decimal

/-!
# Command-line arguments

A program is started with a list of words.  Words that begin with two hyphens name
switches, by their full names or by any beginning that fits one switch only, and a
value may follow as the next word or after an equals sign.  The other words are
operands; after a word of two hyphens alone every word is one.  The switches
{lit}`-h` and {lit}`--help` ask for help.

Words are first told apart, all of them, and then taken from left to right.  Help
and the first fault end the reading; words that nothing takes are left over.

Usage and help are laid out for eighty columns.  On another width, which the
environment may name, their lines are broken at other places; the line that tells
what is wrong with the words is never broken.

Main results:

- Definition {lit}`Grammar.read`: the arguments that words give.
- Theorem {lit}`take_operands`: words that a program without operands does
  not know are left over.
-/

namespace RequestScript.CommandLine

/-- What follows a switch. -/
inductive Arity where
  | nothing
  | text
  | number
deriving DecidableEq, Repr

/-- A switch: its name with the two hyphens, what follows it, and what it
means. -/
structure Switch (α : Type) where
  name : Text
  arity : Arity
  meaning : α

/-- What a program is started with: its name, how its use and its help are shown,
its switches, and the name of its operand if it wants one. -/
structure Grammar (α : Type) where
  program : Text
  usage : List Text
  about : List Text
  switches : List (Switch α)
  operand : Option Text := none

/-- Lines, each ended by a newline. -/
def ended (lines : List Text) : Text :=
  lines.flatMap (· ++ ['\n'])

/-! ## Faults -/

/-- Why words can not be taken. -/
inductive Fault where
  /-- A word begins the names of several switches. -/
  | ambiguous (word : Text) (names : List Text)
  /-- No value follows a switch that needs one. -/
  | missingValue (name : Text)
  /-- A value follows a switch that takes none. -/
  | surplusValue (name value : Text)
  /-- A value is not a whole number. -/
  | notNumber (name value : Text)
  /-- The operand is missing. -/
  | missingOperand (name : Text)
  /-- Some words are left over. -/
  | unknown (words : List Text)
deriving DecidableEq, Repr

/-- How help is asked for, shortly and in full. -/
def helpNames : Text := "-h/--help".toList

/-- The wording of a fault. -/
def Fault.message : Fault → Text
  | .ambiguous word names =>
    "ambiguous option: ".toList ++ word ++ " could match ".toList ++ Text.join ", ".toList names
  | .missingValue name => "argument ".toList ++ name ++ ": expected one argument".toList
  | .surplusValue name value =>
    "argument ".toList ++ name ++ ": ignored explicit argument ".toList ++ Text.quoted value
  | .notNumber name value =>
    "argument ".toList ++ name ++ ": invalid int value: ".toList ++ Text.quoted value
  | .missingOperand name => "the following arguments are required: ".toList ++ name
  | .unknown words => "unrecognized arguments: ".toList ++ Text.join [' '] words

/-- Why reading ends early: help is asked for, or a word is at fault. -/
inductive Stop where
  | help
  | fault (cause : Fault)
deriving DecidableEq, Repr

/-! ## Telling words apart -/

/-- A word by what it is.  A value that is attached to it comes along. -/
inductive Word (α : Type) where
  | separator
  | operand (text : Text)
  | help (surplus : Option Text)
  | switch (switch : Switch α) (attached : Option Text)
  | unknown (text : Text)

/-- Whether a text is one digit or more. -/
def isNumeric (text : Text) : Bool :=
  !text.isEmpty && text.all fun c => (Text.scriptDigitValue c).isSome

/-- Whether a word is a negative number: a hyphen and digits, with a point among or
before them.  A newline at the end is not looked at. -/
def isNegativeNumber (word : Text) : Bool :=
  match word with
  | '-' :: body =>
    let body := if body.getLast? = some '\n' then body.dropLast else body
    match Text.splitAtFirst '.' body with
    | (whole, none) => isNumeric whole
    | (whole, some fraction) => (whole.isEmpty || isNumeric whole) && isNumeric fraction
  | _ => false

/-- A word that names no switch.  Negative numbers and words with a space are
operands all the same. -/
def unnamed {α : Type} (word : Text) : Word α :=
  if isNegativeNumber word || word.contains ' ' then .operand word else .unknown word

/-- What is wrong with the text attached to {lit}`-h`, if anything: its letters must ask
for help again, and there must be one. -/
def surplusOf (attached : Text) : Option Text :=
  match attached, attached.dropWhile (· = 'h') with
  | [], _ => some []
  | _, [] => none
  | _, surplus => some surplus

/-- A word that begins with one hyphen and is longer than that. -/
def shortWord {α : Type} (word : Text) : Word α :=
  match word with
  | ['-', 'h'] => .help none
  | '-' :: 'h' :: '=' :: attached => .help (surplusOf attached)
  | '-' :: 'h' :: attached => .help (surplusOf attached)
  | word => unnamed word

/-- The full name of the switch that asks for help. -/
def helpName : Text := "--help".toList

/-- A word that names a switch whose name is known, with what is attached to
it. -/
def named {α : Type} (switch : Option (Switch α)) (attached : Option Text) : Word α :=
  match switch with
  | some switch => .switch switch attached
  | none => .help attached

/-- The names of all switches, help first, with the switches. -/
def Grammar.names {α : Type} (grammar : Grammar α) : List (Text × Option (Switch α)) :=
  (helpName, none) :: grammar.switches.map fun switch => (switch.name, some switch)

/-- A word that begins with two hyphens and is longer than that. -/
def longWord {α : Type} (grammar : Grammar α) (word : Text) : Except Fault (Word α) :=
  let (name, attached) := Text.splitAtFirst '=' word
  match grammar.names.find? (·.1 = word) with
  | some (_, switch) => .ok (named switch none)
  | none =>
    match grammar.names.find? fun entry => attached.isSome && entry.1 = name with
    | some (_, switch) => .ok (named switch attached)
    | none =>
      match grammar.names.filter fun entry => name.isPrefixOf entry.1 with
      | [] => .ok (unnamed word)
      | [(_, switch)] => .ok (named switch attached)
      | several => .error (.ambiguous word (several.map Prod.fst))

/-- What a word is, before any word of two hyphens alone. -/
def wordOf {α : Type} (grammar : Grammar α) (word : Text) : Except Fault (Word α) :=
  match word with
  | '-' :: '-' :: _ => longWord grammar word
  | ['-'] => .ok (.operand word)
  | '-' :: _ => .ok (shortWord word)
  | _ => .ok (.operand word)

/-- The word of two hyphens alone. -/
def separatorWord : Text := "--".toList

/-- What all words are. -/
def wordsOf {α : Type} (grammar : Grammar α) : List Text → Except Fault (List (Word α))
  | [] => .ok []
  | word :: rest =>
    if word = separatorWord then .ok (.separator :: rest.map .operand)
    else do return (← wordOf grammar word) :: (← wordsOf grammar rest)

/-! ## Taking words -/

/-- What words give: the switches with their values, in order, the operand, and the
words that are left over.  A switch that is given two hyphens alone as its value has
none. -/
structure Arguments (α : Type) where
  switches : List (α × Option Text) := []
  operand : Option Text := none
  leftOver : List Text := []

namespace Arguments

variable {α : Type}

/-- Arguments with one more word left over, before the others. -/
def leave (arguments : Arguments α) (word : Text) : Arguments α :=
  { arguments with leftOver := word :: arguments.leftOver }

/-- Arguments with one more switch, before the others. -/
def give (arguments : Arguments α) (meaning : α) (value : Option Text) : Arguments α :=
  { arguments with switches := (meaning, value) :: arguments.switches }

/-- The value of the last switch with a meaning, if there is such a switch. -/
def last? [DecidableEq α] (arguments : Arguments α) (meaning : α) : Option (Option Text) :=
  (arguments.switches.reverse.find? (·.1 = meaning)).map Prod.snd

end Arguments

/-- A value that fits a switch. -/
def fitting {α : Type} (switch : Switch α) (value : Text) : Except Fault (Option Text) :=
  match switch.arity with
  | .nothing => .error (.surplusValue switch.name value)
  | .text => .ok (if value = separatorWord then none else some value)
  | .number =>
    if value = separatorWord then .ok none
    else if (Text.readInt value).isSome then .ok (some value)
    else .error (.notNumber switch.name value)

/-- Take words from left to right; {lit}`wanted` says that the operand is still to
come.  The operand takes a separator before or after it along. -/
def take {α : Type} (wanted : Bool) : List (Word α) → Except Stop (Arguments α)
  | [] => .ok {}
  | .help none :: _ => .error .help
  | .help (some value) :: _ => .error (.fault (.surplusValue helpNames value))
  | .unknown word :: rest => do return (← take wanted rest).leave word
  | .switch switch (some value) :: rest =>
    match fitting switch value with
    | .error fault => .error (.fault fault)
    | .ok value => do return (← take wanted rest).give switch.meaning value
  | .switch switch none :: rest =>
    if switch.arity = .nothing then do return (← take wanted rest).give switch.meaning none
    else
      match rest with
      | .operand value :: rest =>
        match fitting switch value with
        | .error fault => .error (.fault fault)
        | .ok value => do return (← take wanted rest).give switch.meaning value
      | _ => .error (.fault (.missingValue switch.name))
  | .separator :: rest =>
    match wanted, rest with
    | true, .operand word :: rest => do return { (← take false rest) with operand := some word }
    | _, rest => do return (← take wanted rest).leave separatorWord
  | .operand word :: rest =>
    match wanted, rest with
    | true, .separator :: rest => do return { (← take false rest) with operand := some word }
    | true, rest => do return { (← take false rest) with operand := some word }
    | false, rest => do return (← take false rest).leave word

/-- Words that a program without operands does not know are left over. -/
theorem take_operands {α : Type} (words : List Text) :
    take (α := α) false (words.map .operand) = .ok { leftOver := words } := by
  induction words with
  | nil => rfl
  | cons word rest ih => simp [take, ih, Arguments.leave, bind, Except.bind, pure, Except.pure]

namespace Grammar

variable {α : Type}

/-- The arguments that words give; words that nothing takes are left over. -/
def read (grammar : Grammar α) (words : List Text) : Except Stop (Arguments α) :=
  match wordsOf grammar words with
  | .error fault => .error (.fault fault)
  | .ok words => do
    let arguments ← take grammar.operand.isSome words
    match grammar.operand, arguments.operand with
    | some name, none => .error (.fault (.missingOperand name))
    | _, _ => return arguments

/-- The arguments that words give when none may be left over. -/
def readAll (grammar : Grammar α) (words : List Text) : Except Stop (Arguments α) := do
  let arguments ← grammar.read words
  if arguments.leftOver.isEmpty then return arguments
  else .error (.fault (.unknown arguments.leftOver))

/-- The help of a program. -/
def help (grammar : Grammar α) : Text :=
  ended (grammar.usage ++ [] :: grammar.about)

/-- What a program says about words that it can not take. -/
def complaint (grammar : Grammar α) (fault : Fault) : Text :=
  ended (grammar.usage ++ [grammar.program ++ ": error: ".toList ++ fault.message])

end Grammar

end RequestScript.CommandLine
