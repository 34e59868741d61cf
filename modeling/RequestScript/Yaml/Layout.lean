import RequestScript.Yaml.Token

/-!
# From a YAML text to its tokens

Collections are marked by brackets or by indentation.  Indentation opens a
collection where a line starts further to the right than the collection around it,
and closes all collections that start further to the right than a line.

A key is not marked in front: a colon after a short piece of a line makes the piece
a key.  The place where such a piece starts is remembered until the line ends, so
that the mark of the key can be put there when the colon comes.

A token can not be taken while it may still turn out to be a key.  So what is wrong
with a text keeps back the tokens from the first such one on, and no others.

Main results:

- Definition {lit}`tokens`: the tokens of a text as far as they can be taken, and what
  ends them early.
-/

namespace RequestScript.Yaml

/-- A place where a key may have started: the number of tokens before it, where it
stands, and whether only a key can stand there. -/
structure PossibleKey where
  tokensBefore : Nat
  isRequired : Bool
  index : Nat
  line : Nat
  column : Nat
deriving Repr

/-- The state of cutting a text: the cursor, the tokens so far, the number of open
brackets, the indentation of the open collections, and the possible keys by the
number of brackets around them.  No collection has the indentation {lit}`-1`. -/
structure Layout where
  cursor : Cursor
  tokens : List Token := []
  depth : Nat := 0
  indent : Int := -1
  outerIndents : List Int := []
  keyAllowed : Bool := true
  possibleKeys : List (Nat × PossibleKey) := []

/-- Cutting a text. -/
abbrev Cutter := StateT Layout (Except Fault)

namespace Cutter

/-- The text is not well formed. -/
def fail {α : Type} : Cutter α :=
  throw .malformed

/-- Cut at the cursor. -/
def cut {α : Type} (action : Cut α) : Cutter α := do
  let state ← get
  let (result, cursor) ← (action.run state.cursor : Except Fault (α × Cursor))
  set { state with cursor := cursor }
  return result

/-- Add a token. -/
def push (token : Token) : Cutter Unit :=
  modify fun state => { state with tokens := state.tokens ++ [token] }

/-- Put a token before others. -/
def pushBefore (place : Nat) (token : Token) : Cutter Unit :=
  modify fun state => { state with tokens := state.tokens.insertIdx place token }

/-- Say whether a key may start next. -/
def allowKey (allowed : Bool) : Cutter Unit :=
  modify fun state => { state with keyAllowed := allowed }

/-! ## Possible keys -/

/-- Forget the possible keys that their line or their length rules out. -/
def forgetStaleKeys : Cutter Unit := do
  let state ← get
  let isStale (key : PossibleKey) : Bool :=
    key.line ≠ state.cursor.line || state.cursor.index - key.index > 1024
  if state.possibleKeys.any fun (_, key) => key.isRequired && isStale key then fail
  set { state with possibleKeys := state.possibleKeys.filter fun (_, key) => !isStale key }

/-- Forget the possible key inside the open brackets. -/
def forgetKey : Cutter Unit := do
  let state ← get
  match state.possibleKeys.lookup state.depth with
  | some key =>
    if key.isRequired then fail
    set { state with possibleKeys := state.possibleKeys.filter (·.1 ≠ state.depth) }
  | none => pure ()

/-- Remember that a key may start here. -/
def rememberKey : Cutter Unit := do
  if (← get).keyAllowed then
    forgetKey
    let state ← get
    let key : PossibleKey :=
      { tokensBefore := state.tokens.length
        isRequired := state.depth = 0 && state.indent = state.cursor.column
        index := state.cursor.index
        line := state.cursor.line
        column := state.cursor.column }
    set { state with possibleKeys := (state.depth, key) :: state.possibleKeys }

/-! ## Indentation -/

/-- Close the collections that start to the right of a column. -/
def closeTo (column : Int) : Cutter Unit :=
  modify fun state =>
    if state.depth ≠ 0 then state
    else
      let rec close (tokens : List Token) (indent : Int) : List Int → Layout
        | [] => { state with tokens := tokens, indent := indent, outerIndents := [] }
        | outer :: rest =>
          if column < indent then close (tokens ++ [.blockEnd]) outer rest
          else { state with tokens := tokens, indent := indent, outerIndents := outer :: rest }
      close state.tokens state.indent state.outerIndents

/-- Open a collection at a column, if it is further to the right than the open
ones. -/
def openAt (column : Nat) : Cutter Bool := do
  let state ← get
  if state.indent < column then
    set { state with indent := (column : Int), outerIndents := state.indent :: state.outerIndents }
    return true
  else return false

/-! ## Tokens -/

/-- Add a mark that stands alone in its line or ends all collections. -/
def documentMark (token : Token) : Cutter Unit := do
  closeTo (-1)
  forgetKey
  allowKey false
  cut (Cut.skip 3)
  push token

/-- Add a directive. -/
def directive : Cutter Unit := do
  closeTo (-1)
  forgetKey
  allowKey false
  push (← cut Cut.directive)

/-- Open brackets. -/
def openFlow (token : Token) : Cutter Unit := do
  rememberKey
  modify fun state => { state with depth := state.depth + 1, keyAllowed := true }
  cut (Cut.skip 1)
  push token

/-- Close brackets. -/
def closeFlow (token : Token) : Cutter Unit := do
  forgetKey
  let state ← get
  if state.depth = 0 then fail
  set { state with depth := state.depth - 1, keyAllowed := false }
  cut (Cut.skip 1)
  push token

/-- Separate entries between brackets. -/
def flowEntry : Cutter Unit := do
  allowKey true
  forgetKey
  cut (Cut.skip 1)
  push .flowEntry

/-- Begin an entry of a block sequence. -/
def blockEntry : Cutter Unit := do
  let state ← get
  if state.depth = 0 then
    if !state.keyAllowed then fail
    if ← openAt state.cursor.column then push .blockSequenceStart
  allowKey true
  forgetKey
  cut (Cut.skip 1)
  push .blockEntry

/-- Begin a key that is marked in front. -/
def markedKey : Cutter Unit := do
  let state ← get
  if state.depth = 0 then
    if !state.keyAllowed then fail
    if ← openAt state.cursor.column then push .blockMappingStart
  allowKey (state.depth = 0)
  forgetKey
  cut (Cut.skip 1)
  push .key

/-- Begin a value.  A possible key becomes a key. -/
def value : Cutter Unit := do
  let state ← get
  match state.possibleKeys.lookup state.depth with
  | some key =>
    set { state with possibleKeys := state.possibleKeys.filter (·.1 ≠ state.depth) }
    pushBefore key.tokensBefore .key
    if state.depth = 0 then
      if ← openAt key.column then pushBefore key.tokensBefore .blockMappingStart
    allowKey false
  | none =>
    if state.depth = 0 then
      if !state.keyAllowed then fail
      if ← openAt state.cursor.column then push .blockMappingStart
    allowKey (state.depth = 0)
    forgetKey
  cut (Cut.skip 1)
  push .value

/-- Add a token that may be a key. -/
def possibleKey (token : Cut Token) : Cutter Unit := do
  rememberKey
  allowKey false
  push (← cut token)

/-- Add a plain scalar. -/
def plain : Cutter Unit := do
  rememberKey
  let state ← get
  let (text, broken) ← cut (Cut.plain (state.depth ≠ 0) (state.indent + 1).toNat)
  allowKey broken
  push (.scalar text true)

/-- Add a block scalar. -/
def blockScalar (folded : Bool) : Cutter Unit := do
  allowKey true
  forgetKey
  let state ← get
  push (.scalar (← cut (Cut.block folded (state.indent + 1).toNat)) false)

/-- Pass over spaces, comments and line ends up to the next token. -/
def toNextToken : Nat → Cutter Unit
  | 0 => return ()
  | fuel + 1 => do
    let state ← get
    if state.cursor.index = 0 && follows (· == '\uFEFF') state.cursor.rest then cut (Cut.skip 1)
    cut (Cut.skipWhile (· == ' '))
    cut Cut.comment
    let ended ← cut Cut.lineEnd
    if ended.isEmpty then return ()
    else
      if state.depth = 0 then allowKey true
      toNextToken fuel

/-- Whether a plain scalar can start here. -/
def startsPlain (inFlow : Bool) (c : Char) (after : Text) : Bool :=
  !(isGap c || "-?:,[]\x7b\x7d#&*!|>'\"%@".toList.contains c || c.toNat = 0x60)
    || !atGap after && (c = '-' || !inFlow && (c = '?' || c = ':'))

/-- Add the token that starts at the cursor. -/
def next (c : Char) (text after : Text) : Cutter Unit := do
  let state ← get
  let inFlow := state.depth ≠ 0
  let lineStart := state.cursor.column = 0
  if c = '%' && lineStart then directive
  else if c = '-' && lineStart && isDocumentMark text then documentMark .documentStart
  else if c = '.' && lineStart && isDocumentMark text then documentMark .documentEnd
  else if c = '[' then openFlow .flowSequenceStart
  else if c = '\x7b' then openFlow .flowMappingStart
  else if c = ']' then closeFlow .flowSequenceEnd
  else if c = '\x7d' then closeFlow .flowMappingEnd
  else if c = ',' then flowEntry
  else if c = '-' && atGap after then blockEntry
  else if c = '?' && (inFlow || atGap after) then markedKey
  else if c = ':' && (inFlow || atGap after) then value
  else if c = '*' then possibleKey (do return .alias (← Cut.name))
  else if c = '&' then possibleKey (do return .anchor (← Cut.name))
  else if c = '!' then possibleKey Cut.tag
  else if c = '|' && !inFlow then blockScalar false
  else if c = '>' && !inFlow then blockScalar true
  else if c = '\'' || c = '"' then possibleKey (do return .scalar (← Cut.quoted c) false)
  else if startsPlain inFlow c after then plain
  else fail

/-- Go on by one token; the end of the text is told. -/
def advance : Cutter Bool := do
  toNextToken ((← get).cursor.rest.length + 1)
  forgetStaleKeys
  let state ← get
  closeTo state.cursor.column
  match state.cursor.rest with
  | [] =>
    closeTo (-1)
    forgetKey
    return false
  | c :: after =>
    next c (c :: after) after
    return true

end Cutter

/-- Tokens as far as they can be taken, and what ends them early. -/
structure TokenRun where
  tokens : List Token
  ending : Option Fault := none
deriving Repr

/-- The tokens that can be taken although nothing follows them: those before the first
that may be a key. -/
def Layout.settled (layout : Layout) : List Token :=
  match (layout.possibleKeys.map fun (_, key) => key.tokensBefore).min? with
  | some count => layout.tokens.take count
  | none => layout.tokens

/-- All tokens from a state on. -/
def Layout.run (layout : Layout) : Nat → TokenRun
  | 0 => ⟨layout.settled, some .malformed⟩
  | fuel + 1 =>
    match Cutter.forgetStaleKeys.run layout with
    | .error fault => ⟨layout.settled, some fault⟩
    | .ok ((), layout) =>
      match Cutter.advance.run layout with
      | .error fault => ⟨layout.settled, some fault⟩
      | .ok (true, layout) => layout.run fuel
      | .ok (false, layout) => ⟨layout.tokens, none⟩

/-- The tokens of a text. -/
def tokens (supply : Supply) : TokenRun :=
  let cursor : Cursor := { rest := supply.text, ending := supply.ending }
  match cursor.fault? with
  | some fault => ⟨[], some fault⟩
  | none => Layout.run { cursor } (supply.text.length + 1)

end RequestScript.Yaml
