import RequestScript.Script

/-!
# Literals

Values are written in three ways: between quotes on the line of a statement, bare
with optional quotes around them, or as a block of lines between triple quotes.

Main results:

- Definition {lit}`quotedPart`: the part of a line between its quotes.
- Definition {lit}`block`: the body of a block and the lines after it.
- Theorem {lit}`length_block_snd_le`: reading a block never adds lines.
-/

namespace RequestScript.Literal

/-- Whether a character is a quote. -/
def isQuote (c : Char) : Bool :=
  c == '\'' || c == '"'

/-- The two spellings of the triple quote. -/
def tripleQuotes : List Text :=
  ["\"\"\"".toList, "'''".toList]

/-- A value without the blanks and then the quotes at its ends. -/
def stripQuotes (value : Text) : Text :=
  Text.strip isQuote (Text.trim value)

/-- A value without the blanks at its ends and without any quote. -/
def removeQuotes (value : Text) : Text :=
  Text.without isQuote (Text.trim value)

/-- Whether a value begins a block. -/
def opensBlock (value : Text) : Bool :=
  tripleQuotes.any (·.isPrefixOf value)

/-- Whether a line ends a block. -/
def closesBlock (line : Text) : Bool :=
  tripleQuotes.any (·.isSuffixOf line)

/-! ## Quoted parts of a line -/

/-- The part of a text before the last occurrence of a character, if it
occurs. -/
def beforeLast (c : Char) (text : Text) : Option Text :=
  (Text.splitAtFirst c text.reverse).2.map List.reverse

/-- The text between the first quote of a line and the last quote of the same
kind.  A single quote anywhere on the line makes single quotes count, and a line
with fewer than two quotes of the kind has an empty part. -/
def quotedPart (line : Text) : Text :=
  let quote := if line.contains '\'' then '\'' else '"'
  match (Text.splitAtFirst quote line).2 with
  | none => []
  | some rest => (beforeLast quote rest).getD []

example : quotedPart "* url 'http://a.test'".toList = "http://a.test".toList := by decide
example : quotedPart "* path '".toList = [] := by decide

/-! ## Blocks -/

/-- The lines of a block up to the one that closes it, and the lines after that
one; a block that nothing closes takes all lines. -/
def blockLines : List Line → List Text × List Line
  | [] => ([], [])
  | line :: rest =>
    if closesBlock line.text then ([], rest)
    else
      let (body, after) := blockLines rest
      (line.text :: body, after)

/-- The value of a block, whose opening line stands before the given lines, and
the lines after it. -/
def block (lines : List Line) : Text × List Line :=
  let (body, after) := blockLines lines
  (Text.trim (Text.unlines body), after)

theorem length_blockLines_snd_le (lines : List Line) :
    (blockLines lines).2.length ≤ lines.length := by
  induction lines with
  | nil => simp [blockLines]
  | cons line rest ih =>
    simp only [blockLines]
    split
    · simp
    · simpa using Nat.le_succ_of_le ih

/-- Reading a block never adds lines. -/
theorem length_block_snd_le (lines : List Line) : (block lines).2.length ≤ lines.length :=
  length_blockLines_snd_le lines

/-- The value of the block that opens at a place of a script, and the index of
the line that closes it, which is the last line when nothing closes it.  The
place before the first line is {lit}`-1`. -/
def blockAt (lines : List Line) (opening : Int) : Text × Int :=
  let (value, after) := block (lines.drop (opening + 1).toNat)
  let unclosed := !(lines.drop (opening + 1).toNat).any (closesBlock ·.text)
  (value, if unclosed then lines.length - 1 else lines.length - after.length - 1)

end RequestScript.Literal
