import RequestScript.Text.Numeral
import RequestScript.Text.Quoted
import RequestScript.Value.Binary64
import RequestScript.Value.Calendar
import RequestScript.Value.Octets

/-!
# Values

Log fields and settings come as values of several types.  A value is shown in two
ways: alone, where a text stands for itself, and inside a list or a mapping, where
a text stands between quotes.  In a log record it is written in JSON.

Every value has a text here, also those that a program refuses to write: numbers with
more digits than are shown, values that hold themselves, and in records mappings
whose keys are collections, octets or times.  What is said about the texts of a value
is said for those that can be written; {lit}`Value.isTooLong` tells which numbers are
not.

Main results:

- Definition {lit}`Value.display`: a value alone.
- Definition {lit}`Value.quoted`: a value inside another one.
- Definition {lit}`Value.json`: a value in a log record.
- Definition {lit}`Value.isTooLong`: whether a value holds a number that is too long
  to be shown.
-/

namespace RequestScript

/-- A value of any type.  A collection that contains itself is cut off where it
repeats. -/
inductive Value where
  | null
  | bool (value : Bool)
  | int (value : Int)
  | float (value : Binary64)
  | text (value : Text)
  | octets (value : List UInt8)
  | date (value : Date)
  | moment (value : Moment)
  | list (items : List Value)
  | pair (first second : Value)
  | set (items : List Value)
  | map (entries : List (Value × Value))
  | repeatedList
  | repeatedMap
deriving Inhabited, Repr

namespace Value

/-! ## Display -/

/-- Items between two brackets. -/
def bracket (opening closing : Char) (items : List Text) : Text :=
  opening :: Text.join ", ".toList items ++ [closing]

mutual

/-- A value inside a list or a mapping. -/
def quoted : Value → Text
  | .null => "None".toList
  | .bool value => if value then "True".toList else "False".toList
  | .int value => Text.ofInt value
  | .float value => value.text
  | .text value => Text.quoted value
  | .octets value => Octets.quoted value
  | .date value => value.quoted
  | .moment value => value.quoted
  | .list items => bracket '[' ']' (quotedItems items)
  | .pair first second => bracket '(' ')' [quoted first, quoted second]
  | .set items =>
    if items.isEmpty then "set()".toList else bracket '\x7b' '\x7d' (quotedItems items)
  | .map entries => bracket '\x7b' '\x7d' (quotedEntries entries)
  | .repeatedList => "[...]".toList
  | .repeatedMap => '\x7b' :: "...".toList ++ ['\x7d']

/-- The items of a collection. -/
def quotedItems : List Value → List Text
  | [] => []
  | item :: rest => quoted item :: quotedItems rest

/-- The entries of a mapping. -/
def quotedEntries : List (Value × Value) → List Text
  | [] => []
  | (key, value) :: rest => (quoted key ++ ": ".toList ++ quoted value) :: quotedEntries rest

end

/-- A value alone. -/
def display : Value → Text
  | .text value => value
  | .date value => value.text
  | .moment value => value.text
  | value => quoted value

@[simp]
theorem display_text (value : Text) : display (.text value) = value := rfl

/-! ## Long numbers -/

/-- Whether a number has more digits than are shown. -/
def isLongInt (value : Int) : Bool :=
  Nat.pow 10 Text.maxDigits ≤ value.natAbs

mutual

/-- Whether a value holds a number with more digits than are shown. -/
def isTooLong : Value → Bool
  | .int value => isLongInt value
  | .list items => holdsTooLong items
  | .pair first second => isTooLong first || isTooLong second
  | .set items => holdsTooLong items
  | .map entries => holdsTooLongEntry entries
  | _ => false

/-- Whether one of some values holds a number with more digits than are shown. -/
def holdsTooLong : List Value → Bool
  | [] => false
  | item :: rest => isTooLong item || holdsTooLong rest

/-- Whether a key or a value of some entries holds a number with more digits than are
shown. -/
def holdsTooLongEntry : List (Value × Value) → Bool
  | [] => false
  | (key, value) :: rest => isTooLong key || isTooLong value || holdsTooLongEntry rest

end

@[simp]
theorem isTooLong_text (value : Text) : isTooLong (.text value) = false := by
  simp [isTooLong]

/-! ## Types -/

/-- The name of the type of a value. -/
def typeName : Value → Text
  | .null => "NoneType".toList
  | .bool _ => "bool".toList
  | .int _ => "int".toList
  | .float _ => "float".toList
  | .text _ => "str".toList
  | .octets _ => "bytes".toList
  | .date _ => "date".toList
  | .moment _ => "datetime".toList
  | .list _ => "list".toList
  | .pair .. => "tuple".toList
  | .set _ => "set".toList
  | .map _ => "dict".toList
  | .repeatedList => "list".toList
  | .repeatedMap => "dict".toList

/-! ## Log records -/

/-- One character of a text in a record: quotes, backslashes and control
characters are escaped, everything else stands for itself. -/
def jsonChar (c : Char) : Text :=
  if c = '"' || c = '\\' then ['\\', c]
  else if c = '\n' then "\\n".toList
  else if c = '\r' then "\\r".toList
  else if c = '\t' then "\\t".toList
  else if c.toNat = 8 then "\\b".toList
  else if c.toNat = 12 then "\\f".toList
  else if c.toNat < 0x20 then "\\u".toList ++ Text.padded 16 4 c.toNat
  else [c]

/-- A text in a record. -/
def jsonText (text : Text) : Text :=
  '"' :: text.flatMap jsonChar ++ ['"']

/-- A number in a record. -/
def jsonFloat : Binary64 → Text
  | .nan => "NaN".toList
  | .infinite negative => (if negative then ['-'] else []) ++ "Infinity".toList
  | value => value.text

/-- The key of an entry in a record.  Keys are texts; truth values, numbers and null are
spelled as they are elsewhere in a record. -/
def jsonKey : Value → Text
  | .null => jsonText "null".toList
  | .bool value => jsonText (if value then "true".toList else "false".toList)
  | .float value => jsonText (jsonFloat value)
  | key => jsonText (display key)

mutual

/-- A value in a record.  A value that records have no form for is shown as it is
displayed. -/
def json : Value → Text
  | .null => "null".toList
  | .bool value => if value then "true".toList else "false".toList
  | .int value => Text.ofInt value
  | .float value => jsonFloat value
  | .text value => jsonText value
  | .list items => bracket '[' ']' (jsonItems items)
  | .pair first second => bracket '[' ']' [json first, json second]
  | .map entries => bracket '\x7b' '\x7d' (jsonEntries entries)
  | value => jsonText (display value)

/-- The items of a list in a record. -/
def jsonItems : List Value → List Text
  | [] => []
  | item :: rest => json item :: jsonItems rest

/-- The entries of a mapping in a record. -/
def jsonEntries : List (Value × Value) → List Text
  | [] => []
  | (key, value) :: rest =>
    (jsonKey key ++ ": ".toList ++ json value) :: jsonEntries rest

end

example : json (.map [(.bool true, .pair (.int 1) .null)]) =
    "\x7b\"true\": [1, null]\x7d".toList := by
  decide +kernel

end Value

end RequestScript
