import RequestScript.Text.Quoted
import RequestScript.Text.Utf8
import RequestScript.Value.Calendar

/-!
# Why a YAML text has no value

A YAML text may be ill-formed or use something that is not supported; all of that is
one cause here.  The other causes have a wording of their own: octets that are no
text, escapes that name no code point, and scalars that are not what their tag says.
-/

namespace RequestScript.Yaml

/-- Why a YAML text has no value. -/
inductive Fault where
  /-- The text is not well formed, or something in it is not supported. -/
  | malformed
  /-- The octets are no text. -/
  | undecodable (cause : Utf8.Fault)
  /-- An escape names a code point beyond the last one. -/
  | noSuchCodePoint
  /-- An escape names a number with more than 31 bits. -/
  | tooLargeForCodePoint
  /-- A scalar is no whole number to a base. -/
  | notInt (base : Nat) (text : Text)
  /-- A whole number has too many digits to be read. -/
  | tooManyDigits (count : Nat)
  /-- A scalar is no number with a point. -/
  | notFloat (text : Text)
  /-- A place of a number to the base sixty is worth more than any double. -/
  | tooLargeForFloat
  /-- A scalar is no truth value. -/
  | notBool (text : Text)
  /-- A number has no characters. -/
  | noDigits
  /-- A scalar is no date. -/
  | notTime
  /-- A date is written as a mapping. -/
  | timeOfMapping
  /-- A part of a date is out of range. -/
  | calendar (cause : CalendarFault)
  /-- The text of a scalar is found inside the scalar itself. -/
  | endless
deriving DecidableEq, Repr

/-- The most characters of a text that are shown in the wording of a number that can
not be read. -/
def shownNumeral : Nat := 200

/-- The wording of a fault other than one of form. -/
def Fault.message : Fault → Text
  | .malformed => []
  | .undecodable cause => cause.message
  | .noSuchCodePoint => "chr() arg not in range(0x110000)".toList
  | .tooLargeForCodePoint => "Python int too large to convert to C int".toList
  | .notInt base text =>
    "invalid literal for int() with base ".toList ++ Text.ofNat base ++ ": ".toList
      ++ (Text.quoted text).take shownNumeral
  | .tooManyDigits count =>
    "Exceeds the limit (4300 digits) for integer string conversion: value has ".toList
      ++ Text.ofNat count ++ " digits; use sys.set_int_max_str_digits() to increase the limit".toList
  | .notFloat text => "could not convert string to float: ".toList ++ Text.quoted text
  | .tooLargeForFloat => "int too large to convert to float".toList
  | .notBool text => Text.quoted text
  | .noDigits => "string index out of range".toList
  | .notTime => "'NoneType' object has no attribute 'groupdict'".toList
  | .timeOfMapping => "expected string or bytes-like object, got 'list'".toList
  | .calendar cause => cause.message
  | .endless => "maximum recursion depth exceeded".toList

/-- Whether a fault is one of a value that is not what it should be: faults of form,
of single characters and of size are not. -/
def Fault.isOfValue : Fault → Bool
  | .undecodable _ => true
  | .noSuchCodePoint => true
  | .notInt .. => true
  | .tooManyDigits _ => true
  | .notFloat _ => true
  | .calendar _ => true
  | _ => false

end RequestScript.Yaml
