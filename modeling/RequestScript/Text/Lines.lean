import RequestScript.Text.Blank

/-!
# Lines

A text is cut into lines at every newline, and at nothing else.  A file is read
with three spellings of the line end, which are made one before the text is cut.
-/

namespace RequestScript.Text

/-- The lines of a text: the pieces between newlines, so that a text with
{lit}`n` newlines has {lit}`n + 1` lines. -/
def lines (text : Text) : List Text :=
  text.splitOn '\n'

/-- Two texts with a newline between them have the lines of both. -/
theorem lines_append_cons (first second : Text) :
    lines (first ++ '\n' :: second) = lines first ++ lines second :=
  List.splitOnP_append_cons first second (beq_self_eq_true '\n')

/-- Lines joined by newlines. -/
def unlines (parts : List Text) : Text :=
  join ['\n'] parts

/-- Write every line end as a newline: a carriage return, with the newline after
it if there is one, ends a line as a newline does. -/
def normalizeLineEnds : Text → Text
  | [] => []
  | '\r' :: '\n' :: rest => '\n' :: normalizeLineEnds rest
  | c :: rest => (if c = '\r' then '\n' else c) :: normalizeLineEnds rest

@[simp]
theorem normalizeLineEnds_nil : normalizeLineEnds [] = [] := rfl

end RequestScript.Text
