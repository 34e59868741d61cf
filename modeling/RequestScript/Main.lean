import RequestScript.CommandLine.Converter

/-!
# The program

The converter as a program.  It takes in the files below the working directory as
a file tree, lets the converter run on them, and carries out what the run says: the
files it changed, what it wrote, and its exit code.  Files elsewhere are out of its
sight.
-/

namespace RequestScript.Program

/-- How deep directories are looked into. -/
def maxDepth : Nat := 64

/-- What stands below a directory whose names are given, down to a depth.  What can
not be read is left out. -/
def entriesBelow (depth : Nat) (place : Location) (names : Array IO.FS.DirEntry) :
    IO (List (Location × Entry)) := do
  match depth with
  | 0 => return []
  | depth + 1 =>
    let mut found := []
    for name in names do
      let here := place ++ [name.fileName.toList]
      if ← name.path.isDir then
        match ← name.path.readDir.toBaseIO with
        | .ok inner => found := found ++ (here, .directory) :: (← entriesBelow depth here inner)
        | .error _ => found := found ++ [(here, .directory)]
      else
        match ← (IO.FS.readBinFile name.path).toBaseIO with
        | .ok octets => found := found ++ [(here, .file octets.toList)]
        | .error _ => pure ()
    return found

/-- The directories above a place, from the root on, and the place itself. -/
def above (place : Location) : List (Location × Entry) :=
  (List.range place.length).map fun n => (place.take (n + 1), .directory)

/-- The files below the working directory. -/
def takeIn : IO FileTree := do
  let directory ← IO.currentDir
  let place := (Path.ofText directory.toString.toList).parts
  let found ← entriesBelow maxDepth place (← directory.readDir)
  return { entries := ⟨above place ++ found⟩, workingDirectory := place }

/-- Carry out one change. -/
def carryOut (place : Location) (entry : Entry) : IO Unit := do
  let name := String.ofList ('/' :: Text.join ['/'] place)
  match entry with
  | .directory => IO.FS.createDirAll name
  | .file octets => IO.FS.writeBinFile name ⟨octets.toArray⟩

/-- The variables that hold settings. -/
def environment : IO Environment := do
  let mut found : Environment := ∅
  for setting in Setting.all do
    let name := setting.variableName
    if let some text ← IO.getEnv (String.ofList name) then
      found := found.insert name text.toList
  return found

/-- Run the converter on words, and carry out the run. -/
def start (words : List String) : IO UInt32 := do
  let tree ← takeIn
  let run := Converter.run (words.map String.toList) (← environment) tree
  for (place, entry) in run.tree.entries.entries do
    if tree.entryAt place ≠ some entry then carryOut place entry
  IO.print (String.ofList run.output)
  IO.eprint (String.ofList run.diagnostics)
  match run.ending with
  | .exit code => return code.toUInt32
  | .broken fault =>
    IO.eprintln (String.ofList fault.message)
    return 1

end RequestScript.Program

/-- The program. -/
def main (words : List String) : IO UInt32 :=
  RequestScript.Program.start words
