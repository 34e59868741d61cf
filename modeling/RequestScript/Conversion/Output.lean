import RequestScript.Command
import RequestScript.FileTree
import RequestScript.Text.Utf8

/-!
# Command files

The commands of a feature file are stored under its stem, with an ending, in one
directory for all files.  Directories on the way are made.

Main results:

- Definition {lit}`Output.path`: where the commands of a file go.
- Definition {lit}`Output.write`: the tree after writing them.
-/

namespace RequestScript

/-- Where command files go. -/
structure Output where
  directory : Path
  suffix : Text := ".txt".toList
deriving DecidableEq, Repr

namespace Output

/-- Where the commands of a file go.  The ending may hold slashes, which make
more names. -/
def path (output : Output) (source : Path) : Path :=
  output.directory.join (Path.ofText (source.stem ++ output.suffix))

/-- Write the commands of a file.  Directories that were made before a failure
stay. -/
def write (output : Output) (tree : FileTree) (source : Path) (commands : List Text) :
    FileTree × Except FileTree.Fault Path :=
  let target := output.path source
  match tree.makeDirectories target.parent with
  | (tree, some fault) => (tree, .error fault)
  | (tree, none) =>
    match tree.write target (Utf8.encode (Command.format commands)) with
    | .error fault => (tree, .error fault)
    | .ok tree => (tree, .ok target)

end Output

end RequestScript
