import RequestScript.Text.Basic

/-!
# Blank characters and words

A character is blank when it separates words: the white space of Unicode together
with the four information separators.  Trimming removes blanks from both ends,
and the words of a text are its maximal runs of other characters.
-/

namespace RequestScript.Text

/-- The ranges of blank characters, first and last code point of each. -/
def blankRanges : List (Nat × Nat) :=
  [(0x09, 0x0D), (0x1C, 0x20), (0x85, 0x85), (0xA0, 0xA0), (0x1680, 0x1680),
   (0x2000, 0x200A), (0x2028, 0x2029), (0x202F, 0x202F), (0x205F, 0x205F),
   (0x3000, 0x3000)]

/-- Whether a character separates words. -/
def isBlank (c : Char) : Bool :=
  blankRanges.any fun range => range.1 ≤ c.toNat && c.toNat ≤ range.2

@[simp]
theorem isBlank_space : isBlank ' ' = true := by decide

@[simp]
theorem isBlank_newline : isBlank '\n' = true := by decide

/-- A text without the blanks at its ends. -/
def trim (text : Text) : Text :=
  strip isBlank text

@[simp]
theorem trim_nil : trim [] = [] := rfl

/-- The maximal runs of characters that are not blank, in order. -/
def words (text : Text) : List Text :=
  (text.splitOnP isBlank).filter fun word => !word.isEmpty

/-- The first word, or the empty text when there is none. -/
def firstWord (text : Text) : Text :=
  (words text).headD []

end RequestScript.Text
