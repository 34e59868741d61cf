import RequestScript.Glob
import RequestScript.Text.Utf8

/-!
# Feature files

The scripts to convert are the files below a directory that a pattern selects.  A
file is known by its stem, and the first file in the order of paths is meant when
several share it.

Main results:

- Definition {lit}`Input.files`: the files in order.
- Definition {lit}`Input.read`: the text of a file, or why it can not be read.
-/

namespace RequestScript

/-- Where feature files are found. -/
structure Input where
  directory : Path
  pattern : Text := "*.feature".toList
deriving DecidableEq, Repr

namespace Input

/-- Why feature files can not be looked for. -/
inductive SearchFault where
  /-- The pattern is none. -/
  | pattern (cause : Glob.Fault)
  /-- A path on the way can not be looked at. -/
  | path (cause : FileTree.Fault)
deriving DecidableEq, Repr

/-- The wording of a fault of a search. -/
def SearchFault.message : SearchFault → Text
  | .pattern cause => cause.message
  | .path cause => cause.message

/-- Why a feature file can not be read. -/
inductive Fault where
  | unreadable (path : Path) (cause : FileTree.Fault)
  | unusablePath (cause : FileTree.Fault)
  | undecodable (cause : Utf8.Fault)
deriving DecidableEq, Repr

/-- The wording of a fault. -/
def Fault.message : Fault → Text
  | .unreadable path cause =>
    "Unable to read feature file ".toList ++ path.text ++ ": ".toList ++ cause.message
  | .unusablePath cause => cause.message
  | .undecodable cause => cause.message

/-- The name under which a fault is logged. -/
def Fault.kind : Fault → Text
  | .unreadable .. => "FeatureSourceError".toList
  | .unusablePath cause => cause.kind
  | .undecodable _ => "UnicodeDecodeError".toList

/-- Whether the directory is there. -/
def «exists» (input : Input) (tree : FileTree) : Except FileTree.Fault Bool :=
  tree.isDirectory input.directory

/-- The files below the directory that steps of a pattern select, in the order of
their paths. -/
def selected (input : Input) (tree : FileTree) (steps : List Glob.Step) :
    Except FileTree.Fault (List Path) := do
  let paths ← Glob.select tree steps input.directory
  return (← paths.filterM tree.isFile).mergeSort Path.le

/-- The feature files in the order of their paths.  The pattern is not looked at
when the directory is missing. -/
def files (input : Input) (tree : FileTree) : Except SearchFault (List Path) := do
  if ← (input.exists tree).mapError .path then
    let steps ← (Glob.stepsOf input.pattern).mapError .pattern
    (input.selected tree steps).mapError .path
  else return []

/-- The first feature file with a stem. -/
def find? (input : Input) (tree : FileTree) (stem : Text) :
    Except SearchFault (Option Path) := do
  return (← input.files tree).find? fun path => path.stem = stem

/-- The text of a file, with every line end written as a newline. -/
def read (tree : FileTree) (path : Path) : Except Fault Text :=
  match tree.read path with
  | .error cause => .error (if cause.isRefusal then .unreadable path cause else .unusablePath cause)
  | .ok octets =>
    match Utf8.decode octets with
    | .error cause => .error (.undecodable cause)
    | .ok text => .ok (Text.normalizeLineEnds text)

end Input

end RequestScript
