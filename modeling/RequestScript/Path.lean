import RequestScript.Text.Lines

/-!
# Paths

A path names a file or a directory by the names on the way to it, from the working
directory or from the root.  Empty names and single dots say nothing and are left
out; double dots are kept, since where they lead depends on the files.

Main results:

- Definition {lit}`Path.ofText` and definition {lit}`Path.text`: reading and
  writing a path.
- Definition {lit}`Path.stem`: the name of a file without its last ending.
- Theorem {lit}`Path.parts_join`: what joining paths does to their names.
-/

namespace RequestScript

/-- Where a path starts.  Two slashes at the start are kept apart from one. -/
inductive Anchor where
  | workingDirectory
  | root
  | doubleRoot
deriving DecidableEq, Repr

/-- How a starting point is written. -/
def Anchor.text : Anchor → Text
  | .workingDirectory => []
  | .root => "/".toList
  | .doubleRoot => "//".toList

/-- A path: its starting point and the names from there. -/
structure Path where
  anchor : Anchor := .workingDirectory
  parts : List Text := []
deriving DecidableEq, Repr, Inhabited

namespace Path

/-- The starting point that a text spells: three slashes or more count as
one. -/
def anchorOf (text : Text) : Anchor :=
  match (text.takeWhile (· == '/')).length with
  | 0 => .workingDirectory
  | 2 => .doubleRoot
  | _ => .root

/-- The names that a text spells. -/
def partsOf (text : Text) : List Text :=
  (text.splitOn '/').filter fun part => !part.isEmpty && part != ['.']

/-- The path that a text spells. -/
def ofText (text : Text) : Path :=
  ⟨anchorOf text, partsOf text⟩

/-- The written form of a path. -/
def text (path : Path) : Text :=
  let written := path.anchor.text ++ Text.join ['/'] path.parts
  if written.isEmpty then ['.'] else written

/-- The last name of a path, or the empty text when it has none. -/
def name (path : Path) : Text :=
  path.parts.getLastD []

/-- The path without its last name; a path without names is its own parent. -/
def parent (path : Path) : Path :=
  { path with parts := path.parts.dropLast }

/-- A path continued by another one, which counts from its own starting point if
it has one. -/
def join (path other : Path) : Path :=
  match other.anchor with
  | .workingDirectory => { path with parts := path.parts ++ other.parts }
  | _ => other

/-- A path continued by one name. -/
def child (path : Path) (name : Text) : Path :=
  { path with parts := path.parts ++ [name] }

/-- A name without its last ending.  A dot at the start or at the end of the name
does not begin an ending. -/
def stemOf (name : Text) : Text :=
  match Text.splitAtFirst '.' name.reverse with
  | ([], _) => name
  | (_, none) => name
  | (_, some []) => name
  | (_, some before) => before.reverse

/-- The last name of a path without its last ending. -/
def stem (path : Path) : Text :=
  stemOf path.name

/-- The names by which paths are sorted: the starting point comes first. -/
def sortKey (path : Path) : List Text :=
  match path.anchor with
  | .workingDirectory => path.parts
  | anchor => anchor.text :: path.parts

/-- The order of lists of names, name by name. -/
def partsLe : List Text → List Text → Bool
  | [], _ => true
  | _ :: _, [] => false
  | a :: as, b :: bs => if a = b then partsLe as bs else Text.le a b

/-- The order of paths. -/
def le (a b : Path) : Bool :=
  partsLe a.sortKey b.sortKey

@[simp]
theorem parts_join (path : Path) (parts : List Text) :
    (path.join ⟨.workingDirectory, parts⟩).parts = path.parts ++ parts := rfl

@[simp]
theorem parts_child (path : Path) (name : Text) :
    (path.child name).parts = path.parts ++ [name] := rfl

@[simp]
theorem parent_child (path : Path) (name : Text) : (path.child name).parent = path := by
  simp [child, parent]

@[simp]
theorem name_child (path : Path) (name : Text) : (path.child name).name = name := by
  simp [Path.name, child, List.getLastD_eq_getLast?]

example : (ofText "a//b/./c/".toList).text = "a/b/c".toList := by decide
example : (ofText []).text = ['.'] := by decide
example : (ofText "///a".toList).text = "/a".toList := by decide
example : stemOf "a.b.feature".toList = "a.b".toList := by decide
example : stemOf ".feature".toList = ".feature".toList := by decide

end Path

end RequestScript
