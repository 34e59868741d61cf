import RequestScript.Text.Blank
import RequestScript.Text.Decimal

/-!
# Whole numbers as people type them

A whole number may be typed with blanks around it, a sign, single underscores
between its digits, and digits of any script.  The table lists the zero digit of
every script in Unicode 14; the other nine digits follow it.  Numbers to the bases
two, eight and sixteen may be marked by a letter after a zero.

A number to a base that is no power of two is read only up to a length.

Main results:

- Definition {lit}`readInteger`: the whole number that a text spells to a base, or
  why it spells none.
-/

namespace RequestScript.Text

/-- The zero digits of all scripts. -/
def zeroDigits : List Nat :=
  [0x30, 0x660, 0x6F0, 0x7C0, 0x966, 0x9E6, 0xA66, 0xAE6, 0xB66, 0xBE6, 0xC66, 0xCE6, 0xD66,
   0xDE6, 0xE50, 0xED0, 0xF20, 0x1040, 0x1090, 0x17E0, 0x1810, 0x1946, 0x19D0, 0x1A80, 0x1A90,
   0x1B50, 0x1BB0, 0x1C40, 0x1C50, 0xA620, 0xA8D0, 0xA900, 0xA9D0, 0xA9F0, 0xAA50, 0xABF0,
   0xFF10, 0x104A0, 0x10D30, 0x11066, 0x110F0, 0x11136, 0x111D0, 0x112F0, 0x11450, 0x114D0,
   0x11650, 0x116C0, 0x11730, 0x118E0, 0x11950, 0x11C50, 0x11D50, 0x11DA0, 0x16A60, 0x16AC0,
   0x16B50, 0x1D7CE, 0x1D7D8, 0x1D7E2, 0x1D7EC, 0x1D7F6, 0x1E140, 0x1E2F0, 0x1E950, 0x1FBF0]

/-- The value of a decimal digit of any script. -/
def scriptDigitValue (c : Char) : Option Nat :=
  (zeroDigits.find? fun origin => origin ≤ c.toNat && c.toNat < origin + 10).map (c.toNat - ·)

/-- The value of a common digit to a base. -/
def digitTo (base : Nat) (c : Char) : Option Nat :=
  (digitValue c).filter fun digit => digit < base

/-- The digits at the start of a text with single underscores between them: their
value, how many they are, and the rest of the text.  No digits follow a misplaced
underscore; {lit}`isOpen` says that one was the last character. -/
def digitRun (base value count : Nat) (isOpen : Bool) : Text → Option (Nat × Nat × Text)
  | [] => if isOpen then none else some (value, count, [])
  | c :: rest =>
    if c = '_' then if isOpen then none else digitRun base value count true rest
    else
      match digitTo base c with
      | some digit => digitRun base (value * base + digit) (count + 1) false rest
      | none => if isOpen then none else some (value, count, c :: rest)

/-- The longest number that is read or shown in decimal, in digits. -/
def maxDigits : Nat := 4300

/-- Whether a number to a base is read only up to a length. -/
def isLimited (base : Nat) : Bool :=
  !([2, 4, 8, 16, 32].contains base)

/-- Why a text spells no whole number. -/
inductive NumeralFault where
  | malformed
  | tooLong (digits : Nat)
deriving DecidableEq, Repr

/-- A text without the mark of a base at its start; an underscore may follow the
mark. -/
def withoutBaseMark (base : Nat) (text : Text) : Text :=
  let letters : Text :=
    if base = 2 then ['b', 'B']
    else if base = 8 then ['o', 'O']
    else if base = 16 then ['x', 'X']
    else []
  match text with
  | '0' :: c :: rest =>
    if letters.contains c then
      match rest with
      | '_' :: rest => rest
      | rest => rest
    else text
  | text => text

/-- The whole number without a sign that a text spells to a base. -/
def readUnsigned (base : Nat) (text : Text) : Except NumeralFault Nat :=
  match withoutBaseMark base text with
  | '_' :: _ => .error .malformed
  | text =>
    match digitRun base 0 0 false text with
    | none => .error .malformed
    | some (value, count, rest) =>
      if isLimited base && maxDigits < count then .error (.tooLong count)
      else if count = 0 || !rest.isEmpty then .error .malformed
      else .ok value

/-- Whether a character may stand before or after a number: the information
separators may not. -/
def isMargin (c : Char) : Bool :=
  isBlank c && !(0x1C ≤ c.toNat && c.toNat ≤ 0x1F)

/-- The number in a text without what stands around it, written in the common
digits. -/
def plainNumber (text : Text) : Text :=
  (strip isMargin text).map fun c =>
    match scriptDigitValue c with
    | some digit => Char.ofNat ('0'.toNat + digit)
    | none => c

/-- The whole number that a text spells to a base. -/
def readInteger (base : Nat) (text : Text) : Except NumeralFault Int :=
  match plainNumber text with
  | '-' :: rest => do return -((← readUnsigned base rest : Nat) : Int)
  | '+' :: rest => do return (← readUnsigned base rest : Nat)
  | rest => do return (← readUnsigned base rest : Nat)

/-- The whole number that a text spells in decimal. -/
def readInt (text : Text) : Option Int :=
  (readInteger 10 text).toOption

example : readInt " -1_0 ".toList = some (-10) := by decide +kernel
example : readInt "1__0".toList = none := by decide +kernel
example : readInteger 16 "0x_1F".toList = .ok 31 := by rfl
example : readInteger 2 "0b0b1".toList = .error .malformed := by rfl

end RequestScript.Text
