import RequestScript.Text.Decimal

/-!
# Octets as values

A value may be a list of octets.  It is written in a scalar by 64 digits of six bits
each, four of them for three octets, and filled up by equals signs at the end; other
characters among the digits are passed over.  It is shown between quotes after a
letter, and octets that are no printable character are shown by their number.

Main results:

- Definition {lit}`Octets.read`: the octets that digits spell.
- Definition {lit}`Octets.quoted`: how octets are shown.
-/

namespace RequestScript.Octets

/-! ## Reading -/

/-- The digits, each at the place of its value. -/
def digits : Text :=
  "ABCDEFGHIJKLMNOPQRSTUVWXYZabcdefghijklmnopqrstuvwxyz0123456789+/".toList

/-- The value of a digit. -/
def digitValue (c : Char) : Option Nat :=
  digits.idxOf? c

/-- The octet that two neighbouring digits share: {lit}`place` is the number of digits
before the second in its group of four, and {lit}`bits` are what the first has left. -/
def octetAt (place bits digit : Nat) : UInt8 :=
  UInt8.ofNat (bits * Nat.pow 4 place + digit / Nat.pow 4 (3 - place))

/-- Read digits from a place in a group of four on; {lit}`bits` are what the last digit
has left, and {lit}`fills` counts the equals signs since then.  A group may end early
only where equals signs fill it up, and nothing after them counts. -/
def readFrom (place bits fills : Nat) : Text → Option (List UInt8)
  | [] => if place = 0 then some [] else none
  | c :: rest =>
    if c = '=' then
      if place < 2 then readFrom place bits fills rest
      else if 4 ≤ place + fills + 1 then some []
      else readFrom place bits (fills + 1) rest
    else
      match digitValue c with
      | none => readFrom place bits fills rest
      | some digit =>
        if place = 0 then readFrom 1 digit 0 rest
        else
          (readFrom ((place + 1) % 4) (digit % 4 ^ (3 - place)) 0 rest).map
            (octetAt place bits digit :: ·)

/-- The octets that digits spell. -/
def read (text : Text) : Option (List UInt8) :=
  readFrom 0 0 0 text

/-! ## Written form -/

/-- The quote around octets: single, unless there is a single quote and no double
one. -/
def quoteFor (octets : List UInt8) : Char :=
  if octets.contains 0x27 && !octets.contains 0x22 then '"' else '\''

/-- One octet between quotes. -/
def quoteOctet (quote : Char) (octet : UInt8) : Text :=
  let c := Char.ofNat octet.toNat
  if c = quote || c = '\\' then ['\\', c]
  else if c = '\n' then "\\n".toList
  else if c = '\r' then "\\r".toList
  else if c = '\t' then "\\t".toList
  else if octet < 0x20 || 0x7F ≤ octet then "\\x".toList ++ Text.padded 16 2 octet.toNat
  else [c]

/-- Octets between quotes. -/
def quoted (octets : List UInt8) : Text :=
  let quote := quoteFor octets
  'b' :: quote :: octets.flatMap (quoteOctet quote) ++ [quote]

example : (read "aGVs\nbG8=".toList).map quoted = some "b'hello'".toList := by decide +kernel
example : read "abc".toList = none := by decide +kernel
example : read "/w==".toList = some [0xFF] := by decide +kernel
example : quoted [0x27, 0xFF] = "b\"'\\xff\"".toList := by decide +kernel

end RequestScript.Octets
