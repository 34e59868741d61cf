import RequestScript.FileTree

/-!
# Patterns for file names

A pattern selects files below a directory.  It is a relative path whose names may
hold wildcards: a star stands for any characters, a question mark for one, and
brackets for one of a class of characters.  A name that is two stars stands for any
number of directories.

Main results:

- Definition {lit}`Glob.accepts`: which names a pattern for a name accepts.
- Theorem {lit}`Glob.describes_eq_accepts`: these are the names that matching finds.
- Definition {lit}`Glob.select`: the paths that a pattern selects in a tree.
- Theorem {lit}`Glob.accepts_literal`: a pattern without wildcards accepts
  itself and nothing else.
-/

namespace RequestScript

namespace Glob

/-- A piece of a pattern for a name. -/
inductive Piece where
  | one (c : Char)
  | many
  | oneOf (negated : Bool) (ranges : List (Char × Char))
deriving DecidableEq, Repr

/-- Any single character. -/
def anyChar : Piece := .oneOf true []

/-- Whether a character is in a class. -/
def inClass (negated : Bool) (ranges : List (Char × Char)) (c : Char) : Bool :=
  negated != ranges.any fun range => range.1 ≤ c && c ≤ range.2

/-- A text and everything that is left of it after dropping characters from its
start. -/
def endings : Text → List Text
  | [] => [[]]
  | c :: rest => (c :: rest) :: endings rest

/-- Whether a name is what a pattern describes. -/
def accepts : List Piece → Text → Bool
  | [], name => name.isEmpty
  | .one c :: pattern, name =>
    match name with
    | [] => false
    | d :: rest => c == d && accepts pattern rest
  | .oneOf negated ranges :: pattern, name =>
    match name with
    | [] => false
    | d :: rest => inClass negated ranges d && accepts pattern rest
  | .many :: pattern, name => (endings name).any fun rest => accepts pattern rest

/-- A pattern without wildcards accepts itself and nothing else. -/
theorem accepts_literal (text name : Text) :
    accepts (text.map .one) name = true ↔ name = text := by
  induction text generalizing name with
  | nil => cases name <;> simp [accepts]
  | cons c rest ih =>
    cases name with
    | nil => simp [accepts]
    | cons d name =>
      simp only [List.map_cons, accepts, Bool.and_eq_true, beq_iff_eq, ih, List.cons.injEq]
      exact and_congr_left fun _ => eq_comm

/-! ## Matching

Trying every ending at every star takes too long when there are many stars.  So the
endings of a name are marked by whether the end of a pattern accepts them, for longer
and longer ends of the pattern.
-/

/-- Marks for one more piece that stands for a single character: an ending is accepted
when its first character fits and the ending after that is marked. -/
def markOne (fits : Char → Bool) (name : Text) (marks : List Bool) : List Bool :=
  List.zipWith (fun c mark => fits c && mark) name (marks.drop 1) ++ [false]

/-- Marks for one more star: an ending is accepted when it or a shorter one is
marked. -/
def markMany : List Bool → List Bool
  | [] => []
  | mark :: rest =>
    let later := markMany rest
    (mark || later.headD false) :: later

/-- Which endings of a name a pattern accepts, from the whole name on. -/
def marks : List Piece → Text → List Bool
  | [], name => (endings name).map List.isEmpty
  | .one c :: pattern, name => markOne (c == ·) name (marks pattern name)
  | .oneOf negated ranges :: pattern, name => markOne (inClass negated ranges) name (marks pattern name)
  | .many :: pattern, name => markMany (marks pattern name)

/-- Whether a name is what a pattern describes, found without trying. -/
def describes (pattern : List Piece) (name : Text) : Bool :=
  (marks pattern name).headD false

theorem head_endings_map (f : Text → Bool) (name : Text) :
    ((endings name).map f).headD false = f name := by
  cases name <;> rfl

theorem markOne_endings (fits : Char → Bool) (accept : Text → Bool) (name : Text) :
    markOne fits name ((endings name).map accept) =
      (endings name).map fun
        | [] => false
        | c :: rest => fits c && accept rest := by
  induction name with
  | nil => rfl
  | cons c rest ih =>
    have h : ∃ more, (endings rest).map accept = accept rest :: more := by
      cases rest <;> exact ⟨_, rfl⟩
    obtain ⟨more, h⟩ := h
    simp only [markOne, endings, List.map_cons, List.drop_succ_cons, List.drop_zero, h,
      List.zipWith_cons_cons, List.cons_append] at ih ⊢
    rw [← ih]

theorem markMany_endings (accept : Text → Bool) (name : Text) :
    markMany ((endings name).map accept) =
      (endings name).map fun name => (endings name).any accept := by
  induction name with
  | nil => simp [endings, markMany]
  | cons c rest ih =>
    simp only [endings, List.map_cons, markMany, ih, List.any_cons, head_endings_map]

/-- The marks say of every ending whether the pattern accepts it. -/
theorem marks_eq (pattern : List Piece) (name : Text) :
    marks pattern name = (endings name).map (accepts pattern) := by
  induction pattern with
  | nil => rfl
  | cons piece pattern ih =>
    cases piece with
    | one c =>
      simp only [marks, ih, markOne_endings]
      refine List.map_congr_left fun ending _ => ?_
      cases ending <;> rfl
    | many =>
      simp only [marks, ih, markMany_endings]
      rfl
    | oneOf negated ranges =>
      simp only [marks, ih, markOne_endings]
      refine List.map_congr_left fun ending _ => ?_
      cases ending <;> rfl

/-- Matching finds the names that the pattern accepts. -/
theorem describes_eq_accepts (pattern : List Piece) (name : Text) :
    describes pattern name = accepts pattern name := by
  rw [describes, marks_eq, head_endings_map]

/-! ## Classes -/

/-- Cut the text between brackets at the hyphens that can join a range: a hyphen
counts only from the place {lit}`skip` on. -/
def chunks (skip : Nat) (text : Text) : Nat → List Text
  | 0 => [text]
  | fuel + 1 =>
    match Text.splitAtFirst '-' (text.drop skip) with
    | (_, none) => [text]
    | (before, some after) => (text.take skip ++ before) :: chunks 2 after fuel

/-- A hyphen at the end stands for itself. -/
def closeLast : List Text → List Text
  | [] => []
  | [chunk] => [chunk]
  | [chunk, []] => [chunk ++ ['-']]
  | chunk :: rest => chunk :: closeLast rest

/-- Remove the ranges that hold nothing because their ends are the wrong way
round. -/
def dropEmptyRanges : List Text → List Text
  | [] => []
  | chunk :: rest =>
    match dropEmptyRanges rest with
    | [] => [chunk]
    | next :: others =>
      match chunk.getLast?, next with
      | some low, high :: tail =>
        if high < low then (chunk.dropLast ++ tail) :: others else chunk :: next :: others
      | _, _ => chunk :: next :: others

/-- The ranges of a class: a range where two chunks meet, and single characters
elsewhere. -/
def rangesOf (chunk : Text) : List Text → List (Char × Char)
  | [] => chunk.map fun c => (c, c)
  | next :: others =>
    match chunk.getLast?, next with
    | some low, high :: tail =>
      chunk.dropLast.map (fun c => (c, c)) ++ (low, high) :: rangesOf tail others
    | _, _ => ('-', '-') :: rangesOf next others

/-- The class that the text between brackets describes; an exclamation mark at
its start takes the complement. -/
def classOf (text : Text) : Piece :=
  let skip := if text.head? = some '!' then 2 else 1
  match dropEmptyRanges (closeLast (chunks skip text text.length)) with
  | ('!' :: chunk) :: others => .oneOf true (rangesOf chunk others)
  | chunk :: others => .oneOf false (rangesOf chunk others)
  | [] => .oneOf false []

/-- The text between an opening bracket and the closing one, and the text after
that.  A closing bracket at the start, or after an exclamation mark there, belongs
to the class. -/
def bracketed (text : Text) : Option (Text × Text) :=
  let (mark, rest) := match text with
    | '!' :: rest => (['!'], rest)
    | rest => ([], rest)
  let (first, rest) := match rest with
    | ']' :: rest => ([']'], rest)
    | rest => ([], rest)
  match Text.splitAtFirst ']' rest with
  | (_, none) => none
  | (body, some after) => some (mark ++ first ++ body, after)

/-- The pieces of a pattern for a name.  A bracket that nothing closes stands for
itself. -/
def piecesWithin : Nat → Text → List Piece
  | 0, _ => []
  | _ + 1, [] => []
  | fuel + 1, c :: rest =>
    if c = '*' then .many :: piecesWithin fuel rest
    else if c = '?' then anyChar :: piecesWithin fuel rest
    else if c = '[' then
      match bracketed rest with
      | some (body, after) => classOf body :: piecesWithin fuel after
      | none => .one c :: piecesWithin fuel rest
    else .one c :: piecesWithin fuel rest

/-- The pieces of a pattern for a name. -/
def pieces (text : Text) : List Piece :=
  piecesWithin text.length text

/-! ## Patterns for paths -/

/-- A step of a pattern for a path. -/
inductive Step where
  /-- A name without wildcards. -/
  | named (name : Text)
  /-- A name with wildcards. -/
  | wild (pattern : List Piece)
  /-- Any number of directories. -/
  | anyDepth
  /-- The path so far must be a directory. -/
  | directoryOnly
deriving DecidableEq, Repr

/-- Why a text is no pattern. -/
inductive Fault where
  | empty
  | notRelative
  | nestedDoubleStar
  | noSteps
  | onlySlash
deriving DecidableEq, Repr

/-- The wording of a fault. -/
def Fault.message : Fault → Text
  | .empty => "Unacceptable pattern: ''".toList
  | .notRelative => "Non-relative patterns are unsupported".toList
  | .nestedDoubleStar => "Invalid pattern: '**' can only be an entire path component".toList
  | .noSteps => "tuple index out of range".toList
  | .onlySlash => "'_TerminatingSelector' object has no attribute 'select_from'".toList

/-- Whether two stars stand next to each other. -/
def hasDoubleStar : Text → Bool
  | '*' :: '*' :: _ => true
  | _ :: rest => hasDoubleStar rest
  | [] => false

/-- Whether a name holds wildcards. -/
def isWild (name : Text) : Bool :=
  name.any fun c => c == '*' || c == '?' || c == '['

/-- The step that a name stands for. -/
def stepOf (name : Text) : Except Fault Step :=
  if name = "**".toList then .ok .anyDepth
  else if hasDoubleStar name then .error .nestedDoubleStar
  else if isWild name then .ok (.wild (pieces name))
  else .ok (.named name)

/-- The steps of a pattern.  A slash at its end asks for directories. -/
def stepsOf (text : Text) : Except Fault (List Step) :=
  if text.isEmpty then .error .empty
  else
    let path := Path.ofText text
    let mark := if text.getLast? = some '/' then [Step.directoryOnly] else []
    if path.anchor ≠ .workingDirectory then .error .notRelative
    else if path.parts.isEmpty then .error (if mark.isEmpty then .noSteps else .onlySlash)
    else do return (← path.parts.mapM stepOf) ++ mark

/-- The names below a path, with what stands there. -/
def childrenOf (tree : FileTree) (path : Path) : Except FileTree.Fault (List (Text × Entry)) := do
  return tree.children (← tree.locate path)

/-- The paths that steps select from a directory on.  All steps but the last lead
through directories. -/
def select (tree : FileTree) : List Step → Path → Except FileTree.Fault (List Path)
  | [], path => .ok [path]
  | .directoryOnly :: _, path => .ok [path]
  | .named name :: rest, path => do
    let next := path.child name
    let there ← if rest.isEmpty then tree.exists? next else tree.isDirectory next
    if there then select tree rest next else return []
  | .wild pattern :: rest, path => do
    let found ← (← childrenOf tree path).mapM fun (name, entry) =>
      if (rest.isEmpty || entry = .directory) && describes pattern name then
        select tree rest (path.child name)
      else return []
    return found.flatten
  | .anyDepth :: rest, path => do
    let found ← (tree.directoriesBelow (← tree.locate path)).mapM fun way =>
      select tree rest { path with parts := path.parts ++ way }
    return found.flatten.eraseDups

example : accepts (pieces "[!a-c]*.txt".toList) "x1.txt".toList = true := by decide +kernel
example : accepts (pieces "[]a].f".toList) "].f".toList = true := by decide +kernel
example : accepts (pieces "[b-a]".toList) "b".toList = false := by decide +kernel

end Glob

end RequestScript
