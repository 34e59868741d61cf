import RequestScript.Text.Lines

/-!
# Scripts

A script is a text that is read line by line.  Every line is trimmed and keeps its
place, so that a fault can be reported where it stands.
-/

namespace RequestScript

/-- A line of a script: its place, counted from zero, and its trimmed text. -/
structure Line where
  index : Nat
  text : Text
deriving DecidableEq, Repr

/-- The number of a line as people count, from one. -/
def Line.number (line : Line) : Nat :=
  line.index + 1

namespace Script

/-- Number texts from a first index on, and trim them. -/
def linesFrom (index : Nat) : List Text → List Line
  | [] => []
  | raw :: rest => ⟨index, Text.trim raw⟩ :: linesFrom (index + 1) rest

/-- The lines of a script. -/
def lines (content : Text) : List Line :=
  linesFrom 0 (Text.lines content)

@[simp]
theorem linesFrom_nil (index : Nat) : linesFrom index [] = [] := rfl

@[simp]
theorem length_linesFrom (index : Nat) (texts : List Text) :
    (linesFrom index texts).length = texts.length := by
  induction texts generalizing index with
  | nil => rfl
  | cons raw rest ih => simp [linesFrom, ih]

end Script

end RequestScript
