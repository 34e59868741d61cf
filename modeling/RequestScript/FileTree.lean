import RequestScript.OrderedMap
import RequestScript.Path
import RequestScript.Text.Quoted

/-!
# File trees

A file tree is a value: which directories and files there are, and the octets of
every file.  Looking up, making directories, reading and writing are functions on
it, so that what a program does to the files can be told from its result.

A path is followed name by name.  Every name on the way must be a directory, a
double dot goes back to the directory above, and the root is above itself.

There are directories and regular files and nothing else: no links, no special
files, and no permissions.  So whatever stands in a tree can be looked at, read and
written to, and an operation is refused only for where its path leads or for the
path itself.  Sizes and numbers of files have no bound.  What is said about trees is
said about file systems of this kind.

Main results:

- Definition {lit}`FileTree.locate`: where a path leads.
- Definition {lit}`FileTree.makeDirectories` and definition
  {lit}`FileTree.write`: the two changes.
- Theorem {lit}`FileTree.entryAt_put_self` and theorem
  {lit}`FileTree.entryAt_put_of_ne`: what a change does to every place.
-/

namespace RequestScript

/-- A place in a tree: the names from the root, without dots. -/
abbrev Location := List Text

/-- What stands at a place. -/
inductive Entry where
  | directory
  | file (octets : List UInt8)
deriving DecidableEq, Repr

/-- Directories and files, and the directory that paths start from. -/
structure FileTree where
  entries : OrderedMap Location Entry := ∅
  workingDirectory : Location := []
deriving DecidableEq, Repr, Inhabited

namespace FileTree

/-- Why a file operation is refused. -/
inductive Refusal where
  | missing
  | present
  | notDirectory
  | isDirectory
  | tooLong
deriving DecidableEq, Repr

/-- A failed file operation: it is refused at a path, or the text of the path is no
path at all, because it holds the character that ends names or because some of it is
no character.  For the latter, {lit}`run` is what is no character and {lit}`place` is
where it starts. -/
inductive Fault where
  | refused (reason : Refusal) (path : Path)
  | unusablePath
  | unencodable (place : Nat) (run : Text)
deriving DecidableEq, Repr

/-- The number of a refusal. -/
def Refusal.code : Refusal → Nat
  | .missing => 2
  | .present => 17
  | .notDirectory => 20
  | .isDirectory => 21
  | .tooLong => 36

/-- The wording of a refusal. -/
def Refusal.message : Refusal → Text
  | .missing => "No such file or directory".toList
  | .present => "File exists".toList
  | .notDirectory => "Not a directory".toList
  | .isDirectory => "Is a directory".toList
  | .tooLong => "File name too long".toList

/-- The name under which a refusal is logged. -/
def Refusal.kind : Refusal → Text
  | .missing => "FileNotFoundError".toList
  | .present => "FileExistsError".toList
  | .notDirectory => "NotADirectoryError".toList
  | .isDirectory => "IsADirectoryError".toList
  | .tooLong => "OSError".toList

/-- What in a text can not be encoded: one stand-in by its number, several by their
places. -/
def unencodablePart (place : Nat) : Text → Text
  | [c] =>
    "character '".toList ++ Text.escapeCodePoint (Text.codePointOf c) ++ "' in position ".toList
      ++ Text.ofNat place
  | run =>
    "characters in position ".toList ++ Text.ofNat place ++ ['-']
      ++ Text.ofNat (place + run.length - 1)

/-- The wording of a failed file operation. -/
def Fault.message : Fault → Text
  | .refused reason path =>
    "[Errno ".toList ++ Text.ofNat reason.code ++ "] ".toList ++ reason.message ++ ": ".toList
      ++ Text.quoted path.text
  | .unusablePath => "embedded null byte".toList
  | .unencodable place run =>
    "'utf-8' codec can't encode ".toList ++ unencodablePart place run
      ++ ": surrogates not allowed".toList

theorem isAscii_unencodablePart (place : Nat) (run : Text) :
    Text.isAscii (unencodablePart place run) = true := by
  unfold unencodablePart
  split
  · simp only [Text.isAscii_append, Text.isAscii_escapeCodePoint, Text.isAscii_ofNat]
    decide +kernel
  · simp only [Text.isAscii_append, Text.isAscii_ofNat]
    decide +kernel

/-- What is said about a text that can not be encoded is ASCII, even though the text is
not. -/
theorem isAscii_unencodable (place : Nat) (run : Text) :
    Text.isAscii (Fault.unencodable place run).message = true := by
  have hmessage : (Fault.unencodable place run).message =
      "'utf-8' codec can't encode ".toList ++ unencodablePart place run
        ++ ": surrogates not allowed".toList := rfl
  have hfront : Text.isAscii "'utf-8' codec can't encode ".toList = true := by decide +kernel
  have hback : Text.isAscii ": surrogates not allowed".toList = true := by decide +kernel
  rw [hmessage, Text.isAscii_append, Text.isAscii_append, hfront, isAscii_unencodablePart, hback]
  rfl

/-- The name under which a failed file operation is logged. -/
def Fault.kind : Fault → Text
  | .refused reason _ => reason.kind
  | .unusablePath => "ValueError".toList
  | .unencodable .. => "UnicodeEncodeError".toList

/-- Whether an operation is refused at a path, so that the path itself is one. -/
def Fault.isRefusal : Fault → Bool
  | .refused .. => true
  | _ => false

/-! ## Places -/

/-- What stands at a place; the root is a directory. -/
def entryAt (tree : FileTree) (place : Location) : Option Entry :=
  if place = [] then some .directory else tree.entries.get? place

/-- Put something at a place. -/
def put (tree : FileTree) (place : Location) (entry : Entry) : FileTree :=
  { tree with entries := tree.entries.insert place entry }

@[simp]
theorem entryAt_root (tree : FileTree) : tree.entryAt [] = some .directory := rfl

theorem entryAt_put_self (tree : FileTree) {place : Location} (h : place ≠ []) (entry : Entry) :
    (tree.put place entry).entryAt place = some entry := by
  simp [entryAt, put, h]

theorem entryAt_put_of_ne (tree : FileTree) {place other : Location} (h : other ≠ place)
    (entry : Entry) : (tree.put place entry).entryAt other = tree.entryAt other := by
  simp [entryAt, put, OrderedMap.get?_insert_of_ne _ h]

/-- The names directly below a place, with what stands there. -/
def children (tree : FileTree) (place : Location) : List (Text × Entry) :=
  tree.entries.entries.filterMap fun (other, entry) =>
    match other.getLast? with
    | some name => if other.dropLast = place then some (name, entry) else none
    | none => none

/-- The ways down from a place to the directories below it, the empty way
first. -/
def directoriesBelow (tree : FileTree) (place : Location) : List Location :=
  [] :: tree.entries.entries.filterMap fun (other, entry) =>
    if entry = .directory && place.isPrefixOf other && other ≠ place then
      some (other.drop place.length)
    else none

/-- Remove what stands at a place. -/
def removeAt (tree : FileTree) (place : Location) : FileTree :=
  { tree with entries := ⟨tree.entries.entries.filter fun entry => entry.1 ≠ place⟩ }

/-! ## Following a path -/

/-- The name that leads to the directory above. -/
def upward : Text := "..".toList

/-- The most octets that a name takes. -/
def maxNameSize : Nat := 255

/-- The most octets that the text of a path takes. -/
def maxPathSize : Nat := 4095

/-- Whether a character stands in for a surrogate that names of files have for an
octet of no character. -/
def isOctet (c : Char) : Bool :=
  Text.isStandIn c && 0xDC80 ≤ Text.codePointOf c && Text.codePointOf c ≤ 0xDCFF

/-- The number of octets that a text takes as a name; an octet of no character is
one. -/
def octetCount (text : Text) : Nat :=
  (text.map fun c => if isOctet c then 1 else c.utf8Size).foldr (· + ·) 0

/-- Follow names from a place.  The last name may lead to a place where nothing
stands. -/
def walk (tree : FileTree) : Location → List Text → Except Refusal Location
  | here, [] => .ok here
  | here, name :: rest =>
    match tree.entryAt here with
    | none => .error .missing
    | some (.file _) => .error .notDirectory
    | some .directory =>
      if maxNameSize < octetCount name then .error .tooLong
      else walk tree (if name = upward then here.dropLast else here ++ [name]) rest

/-- What of a path can not be encoded, if anything. -/
def unencodable? (text : Text) : Option Fault :=
  match text.findIdx? fun c => Text.isStandIn c && !isOctet c with
  | some place => some (.unencodable place ((text.drop place).takeWhile Text.isStandIn))
  | none => none

/-- Why the text of a path is no path, if it is none. -/
def unusable? (text : Text) : Option Fault :=
  match unencodable? text with
  | some fault => some fault
  | none => if text.contains '\x00' then some .unusablePath else none

/-- The place that a path leads to. -/
def locate (tree : FileTree) (path : Path) : Except Fault Location :=
  match unusable? path.text with
  | some fault => .error fault
  | none =>
    let start :=
      match path.anchor with
      | .workingDirectory => tree.workingDirectory
      | _ => []
    if maxPathSize < octetCount path.text then .error (.refused .tooLong path)
    else
      match walk tree start path.parts with
      | .ok place => .ok place
      | .error reason => .error (.refused reason path)

/-- What stands where a path leads.  Where a path leads nowhere there is nothing; only
of a path that is too long this can not be said. -/
def entry? (tree : FileTree) (path : Path) : Except Fault (Option Entry) :=
  match tree.locate path with
  | .ok place => .ok (tree.entryAt place)
  | .error (.refused .tooLong path) => .error (.refused .tooLong path)
  | .error _ => .ok none

/-- Whether a path leads to anything. -/
def exists? (tree : FileTree) (path : Path) : Except Fault Bool := do
  return (← tree.entry? path).isSome

/-- Whether a path leads to a directory. -/
def isDirectory (tree : FileTree) (path : Path) : Except Fault Bool := do
  return (← tree.entry? path) = some .directory

/-- Whether a path leads to a file. -/
def isFile (tree : FileTree) (path : Path) : Except Fault Bool := do
  match ← tree.entry? path with
  | some (.file _) => return true
  | _ => return false

/-! ## Changes -/

/-- Make one directory where nothing stands. -/
def makeDirectory (tree : FileTree) (path : Path) : Except Fault FileTree := do
  let place ← tree.locate path
  match tree.entryAt place with
  | some _ => .error (.refused .present path)
  | none => .ok (tree.put place .directory)

/-- Make one directory, or find that it is there. -/
def ensureDirectory (tree : FileTree) (path : Path) : Except Fault FileTree :=
  match tree.makeDirectory path with
  | .ok tree => .ok tree
  | .error fault =>
    match fault, tree.isDirectory path with
    | .refused .missing _, _ => .error fault
    | .refused .., .ok true => .ok tree
    | _, _ => .error fault

/-- Make a directory and the directories above it, at most {lit}`depth` of
them.  Directories that were made before a failure stay. -/
def makeDirectoriesWithin (tree : FileTree) (path : Path) : Nat → FileTree × Option Fault
  | 0 => (tree, some (.refused .missing path))
  | depth + 1 =>
    match tree.ensureDirectory path with
    | .ok tree => (tree, none)
    | .error (.refused .missing _) =>
      match makeDirectoriesWithin tree path.parent depth with
      | (tree, none) =>
        match tree.ensureDirectory path with
        | .ok tree => (tree, none)
        | .error fault => (tree, some fault)
      | failed => failed
    | .error fault => (tree, some fault)

/-- Make a directory and the directories above it. -/
def makeDirectories (tree : FileTree) (path : Path) : FileTree × Option Fault :=
  tree.makeDirectoriesWithin path (path.parts.length + 1)

/-- The octets of a file. -/
def read (tree : FileTree) (path : Path) : Except Fault (List UInt8) := do
  let place ← tree.locate path
  match tree.entryAt place with
  | some (.file octets) => .ok octets
  | some .directory => .error (.refused .isDirectory path)
  | none => .error (.refused .missing path)

/-- Write a file, whether it is there or not. -/
def write (tree : FileTree) (path : Path) (octets : List UInt8) : Except Fault FileTree := do
  let place ← tree.locate path
  match tree.entryAt place with
  | some .directory => .error (.refused .isDirectory path)
  | _ => .ok (tree.put place (.file octets))

/-- Remove a file. -/
def remove (tree : FileTree) (path : Path) : Except Fault FileTree := do
  let place ← tree.locate path
  match tree.entryAt place with
  | some (.file _) => .ok (tree.removeAt place)
  | some .directory => .error (.refused .isDirectory path)
  | none => .error (.refused .missing path)

end FileTree

end RequestScript
