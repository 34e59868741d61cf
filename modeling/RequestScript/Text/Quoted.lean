import RequestScript.Text.Printable
import RequestScript.Text.Decimal

/-!
# Quoted texts

A text is shown inside a message between quotes and on one line.  Single quotes
are used, unless the text holds a single quote and no double quote.  The quote in
use, the backslash and the characters without a glyph are written as escapes, so
the quoted form of a text never holds a line end.  A character that stands in for a
surrogate is quoted by the number of the surrogate.
-/

namespace RequestScript.Text

/-- The quote that surrounds a text: single, unless the text has a single quote
and no double quote. -/
def quoteFor (text : Text) : Char :=
  if text.contains '\'' && !text.contains '"' then '"' else '\''

/-- A character without a glyph, written by its code point. -/
def escapeCodePoint (n : Nat) : Text :=
  if n ≤ 0xFF then "\\x".toList ++ padded 16 2 n
  else if n ≤ 0xFFFF then "\\u".toList ++ padded 16 4 n
  else "\\U".toList ++ padded 16 8 n

/-- The escape of a character is ASCII. -/
@[simp]
theorem isAscii_escapeCodePoint (n : Nat) : isAscii (escapeCodePoint n) = true := by
  rw [escapeCodePoint]
  split
  · rw [isAscii_append, isAscii_padded]
    decide
  · split <;> rw [isAscii_append, isAscii_padded] <;> decide

/-- One character of a quoted text. -/
def quoteChar (quote c : Char) : Text :=
  if c = quote || c = '\\' then ['\\', c]
  else if c = '\n' then "\\n".toList
  else if c = '\r' then "\\r".toList
  else if c = '\t' then "\\t".toList
  else if isPrintable c then [c]
  else escapeCodePoint (codePointOf c)

/-- The quoted form of a text. -/
def quoted (text : Text) : Text :=
  let quote := quoteFor text
  quote :: text.flatMap (quoteChar quote) ++ [quote]

example : quoted "it's".toList = "\"it's\"".toList := by decide
example : quoted "a\nb".toList = "'a\\nb'".toList := by decide
example : quoted [standInFor 0xD800] = "'\\ud800'".toList := by decide +kernel

end RequestScript.Text
