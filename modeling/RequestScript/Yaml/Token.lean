import RequestScript.Text.Numeral
import RequestScript.Yaml.Supply

/-!
# Tokens of a YAML text

A YAML text is cut into tokens before its structure is read: scalars, the marks
around collections and entries, and the properties of nodes.  Places where the
indentation opens or closes a collection are tokens too.

This file holds the tokens, the cursor that moves over the text, and the rules for
cutting out a single scalar, anchor or tag.

Main results:

- Definition {lit}`Cut.plain`, definition {lit}`Cut.quoted` and definition
  {lit}`Cut.block`: the three ways to write a scalar.
-/

namespace RequestScript.Yaml

/-- A piece of a YAML text. -/
inductive Token where
  | version (major : Nat)
  | tagHandle (handle leading : Text)
  | otherDirective
  | documentStart
  | documentEnd
  | blockSequenceStart
  | blockMappingStart
  | blockEnd
  | flowSequenceStart
  | flowSequenceEnd
  | flowMappingStart
  | flowMappingEnd
  | blockEntry
  | flowEntry
  | key
  | value
  | alias (name : Text)
  | anchor (name : Text)
  | tag (handle : Option Text) (suffix : Text)
  | scalar (text : Text) (isPlain : Bool)
deriving DecidableEq, Repr

/-- A place in a text: what follows, what ends the text early, and how far the place
is from the start of the text and of the line. -/
structure Cursor where
  rest : Text
  ending : Option Fault := none
  index : Nat := 0
  line : Nat := 0
  column : Nat := 0
deriving Repr

/-! ## Character classes -/

/-- Whether a character ends a line. -/
def isBreak (c : Char) : Bool :=
  c == '\n' || c == '\r' || c == '\u0085' || c == '\u2028' || c == '\u2029'

/-- Whether a character ends a line or is a space or a tab. -/
def isGap (c : Char) : Bool :=
  c == ' ' || c == '\t' || isBreak c

/-- Whether a text is over, or goes on with a character of a class. -/
def overOr (p : Char → Bool) : Text → Bool
  | [] => true
  | c :: _ => p c

/-- Whether a line ends here. -/
def atLineEnd (text : Text) : Bool :=
  overOr isBreak text

/-- Whether a token ends here. -/
def atGap (text : Text) : Bool :=
  overOr isGap text

/-- Whether a text goes on with a character of a class. -/
def follows (p : Char → Bool) : Text → Bool
  | [] => false
  | c :: _ => p c

/-- Whether a character may stand in the name of an anchor or a handle. -/
def isNameChar (c : Char) : Bool :=
  c.isAlphanum || c == '-' || c == '_'

/-- Whether a character may stand in a tag. -/
def isTagChar (c : Char) : Bool :=
  c.isAlphanum || "-;/?:@&=+$,_.!~*'()[]%".toList.contains c

/-- Whether a document mark of three equal characters stands here. -/
def isDocumentMark (text : Text) : Bool :=
  (text.take 3 == "---".toList || text.take 3 == "...".toList) && atGap (text.drop 3)

/-! ## Moving -/

/-- The place after the next character. -/
def Cursor.step (cursor : Cursor) : Cursor :=
  match cursor.rest with
  | [] => cursor
  | c :: rest =>
    if isBreak c then
      { cursor with rest, index := cursor.index + 1, line := cursor.line + 1, column := 0 }
    else
      { cursor with
        rest
        index := cursor.index + 1
        column := if c = '\uFEFF' then cursor.column else cursor.column + 1 }

/-- The place after a number of characters. -/
def Cursor.forward (cursor : Cursor) : Nat → Cursor
  | 0 => cursor
  | count + 1 => cursor.step.forward count

/-- What ends the text early, where nothing else follows. -/
def Cursor.fault? (cursor : Cursor) : Option Fault :=
  if cursor.rest.isEmpty then cursor.ending else none

/-- Reading at a cursor. -/
abbrev Cut := StateT Cursor (Except Fault)

namespace Cut

/-- The text is not well formed. -/
def fail {α : Type} : Cut α :=
  throw .malformed

/-- What follows. -/
def rest : Cut Text :=
  return (← get).rest

/-- How far the line has gone. -/
def column : Cut Nat :=
  return (← get).column

/-- Pass over characters.  The text must go on to be handed over up to the next
one. -/
def skip (count : Nat) : Cut Unit := do
  let cursor := (← get).forward count
  match cursor.fault? with
  | some fault => throw fault
  | none => set cursor

/-- Take the longest run of characters of a class. -/
def takeWhile (p : Char → Bool) : Cut Text := do
  let run := (← rest).takeWhile p
  skip run.length
  return run

/-- Pass over the longest run of characters of a class. -/
def skipWhile (p : Char → Bool) : Cut Unit := do
  let _ ← takeWhile p

/-- Require that what follows satisfies a condition. -/
def require (p : Text → Bool) : Cut Unit := do
  if p (← rest) then pure () else fail

/-- Take a line end, if one follows.  All but two of them count as newlines. -/
def lineEnd : Cut Text := do
  match ← rest with
  | '\r' :: '\n' :: _ =>
    skip 2
    return ['\n']
  | c :: _ =>
    if isBreak c then
      skip 1
      return [if c = '\u2028' || c = '\u2029' then c else '\n']
    else return []
  | [] => return []

/-- Pass over a comment, if one follows. -/
def comment : Cut Unit := do
  if follows (· == '#') (← rest) then skipWhile fun c => !isBreak c

/-- Pass over the rest of a line that may only hold a comment. -/
def restOfLine : Cut Unit := do
  skipWhile (· == ' ')
  comment
  require atLineEnd
  let _ ← lineEnd

/-! ## Plain scalars -/

/-- The part of a plain scalar before the next gap or mark. -/
def plainRun (inFlow : Bool) : Text → Text
  | [] => []
  | c :: rest =>
    if isGap c then []
    else if c = ':' && overOr (fun d => isGap d || inFlow && ",[]\x7b\x7d".toList.contains d) rest
    then []
    else if inFlow && ",?[]\x7b\x7d".toList.contains c then []
    else c :: plainRun inFlow rest

/-- Take the spaces and line ends after the first line end in a plain scalar;
nothing is taken when a document mark follows. -/
def plainBreaks : Nat → Text → Cut (Option Text)
  | 0, breaks => return some breaks
  | fuel + 1, breaks => do
    let text ← rest
    if follows (· == ' ') text then
      skip 1
      plainBreaks fuel breaks
    else if follows isBreak text then
      let breaks := breaks ++ (← lineEnd)
      if isDocumentMark (← rest) then return none else plainBreaks fuel breaks
    else return some breaks

/-- Take the space between two parts of a plain scalar, folded, and tell whether
it holds a line end. -/
def plainSpace : Cut (Text × Bool) := do
  let spaces ← takeWhile (· == ' ')
  if follows isBreak (← rest) then
    let first ← lineEnd
    if isDocumentMark (← rest) then return ([], true)
    match ← plainBreaks ((← rest).length + 1) [] with
    | none => return ([], true)
    | some breaks =>
      let folded := if first = ['\n'] then (if breaks.isEmpty then [' '] else []) else first
      return (folded ++ breaks, true)
  else return (spaces, false)

/-- Take the parts of a plain scalar. -/
def plainParts (inFlow : Bool) (indent : Nat) : Nat → Text → Text → Bool → Cut (Text × Bool)
  | 0, text, _, broken => return (text, broken)
  | fuel + 1, text, space, broken => do
    let here ← rest
    let run := plainRun inFlow here
    if follows (· == '#') here || run.isEmpty then return (text, broken)
    skip run.length
    let text := text ++ space ++ run
    let (space, broken) ← plainSpace
    if space.isEmpty || follows (· == '#') (← rest) || (!inFlow && (← column) < indent) then
      return (text, broken)
    else plainParts inFlow indent fuel text space broken

/-- Cut out a plain scalar, and tell whether a line ends after it. -/
def plain (inFlow : Bool) (indent : Nat) : Cut (Text × Bool) := do
  plainParts inFlow indent ((← rest).length + 1) [] [] false

/-! ## Quoted scalars -/

/-- The character that a letter after a backslash stands for. -/
def escapeOf (c : Char) : Option Char :=
  [('0', '\x00'), ('a', '\x07'), ('b', '\x08'), ('t', '\t'), ('\t', '\t'), ('n', '\n'),
    ('v', '\x0b'), ('f', '\x0c'), ('r', '\r'), ('e', '\x1b'), (' ', ' '), ('"', '"'),
    ('\\', '\\'), ('/', '/'), ('N', '\u0085'), ('_', '\u00A0'), ('L', '\u2028'),
    ('P', '\u2029')].lookup c

/-- The number of digits of a code point after a letter. -/
def escapeDigits (c : Char) : Option Nat :=
  [('x', 2), ('u', 4), ('U', 8)].lookup c

/-- Take blank lines inside a quoted scalar. -/
def quotedBreaks : Nat → Text → Cut Text
  | 0, _ => fail
  | fuel + 1, breaks => do
    if isDocumentMark (← rest) then fail
    skipWhile fun c => c == ' ' || c == '\t'
    if follows isBreak (← rest) then quotedBreaks fuel (breaks ++ (← lineEnd))
    else return breaks

/-- The character that an escape names by its code point. -/
def escaped (code : Nat) : Cut Char :=
  if code < 0x110000 then
    return if 0xD800 ≤ code && code ≤ 0xDFFF then Text.standInFor code else Char.ofNat code
  else throw (if code < 0x80000000 then .noSuchCodePoint else .tooLargeForCodePoint)

/-- Take what a backslash begins. -/
def escape : Cut Text := do
  match ← rest with
  | [] => fail
  | c :: after =>
    match escapeOf c, escapeDigits c with
    | some d, _ =>
      skip 1
      return [d]
    | none, some count =>
      match Text.readNat 16 (after.take count) with
      | some code =>
        if (after.take count).length < count then fail
        let c ← escaped code
        skip (count + 1)
        return [c]
      | none => fail
    | none, none =>
      if isBreak c then
        let _ ← lineEnd
        quotedBreaks ((← rest).length + 1) []
      else fail

/-- Take characters of a quoted scalar up to a gap or the closing quote. -/
def quotedRun (double : Bool) : Nat → Text → Cut Text
  | 0, _ => fail
  | fuel + 1, text => do
    let run ← takeWhile fun c => !(isGap c || c == '\'' || c == '"' || c == '\\')
    let text := text ++ run
    match ← rest with
    | [] => return text
    | c :: after =>
      if !double && c = '\'' && follows (· == '\'') after then
        skip 2
        quotedRun double fuel (text ++ ['\''])
      else if double && c = '\'' || !double && (c = '"' || c = '\\') then
        skip 1
        quotedRun double fuel (text ++ [c])
      else if double && c = '\\' then
        skip 1
        quotedRun double fuel (text ++ (← escape))
      else return text

/-- Take a gap inside a quoted scalar, folded. -/
def quotedSpace : Cut Text := do
  let spaces ← takeWhile fun c => c == ' ' || c == '\t'
  match ← rest with
  | [] => fail
  | c :: _ =>
    if isBreak c then
      let first ← lineEnd
      let breaks ← quotedBreaks ((← rest).length + 1) []
      let folded := if first = ['\n'] then (if breaks.isEmpty then [' '] else []) else first
      return folded ++ breaks
    else return spaces

/-- Take the parts of a quoted scalar up to the closing quote. -/
def quotedParts (double : Bool) (quote : Char) : Nat → Text → Cut Text
  | 0, _ => fail
  | fuel + 1, text => do
    if follows (· == quote) (← rest) then
      skip 1
      return text
    let space ← quotedSpace
    let run ← quotedRun double ((← rest).length + 1) []
    quotedParts double quote fuel (text ++ space ++ run)

/-- Cut out a scalar between quotes. -/
def quoted (quote : Char) : Cut Text := do
  let double := quote == '"'
  skip 1
  let run ← quotedRun double ((← rest).length + 1) []
  quotedParts double quote ((← rest).length + 1) run

/-! ## Block scalars -/

/-- What is done with the line ends at the end of a block scalar. -/
inductive Chomp where
  | strip
  | clip
  | keep
deriving DecidableEq, Repr

/-- Take the sign that says what is done with the last line ends. -/
def chompMark : Cut (Option Chomp) := do
  match ← rest with
  | '+' :: _ =>
    skip 1
    return some .keep
  | '-' :: _ =>
    skip 1
    return some .strip
  | _ => return none

/-- Take the digit that gives the indentation. -/
def indentMark : Cut (Option Nat) := do
  match ← rest with
  | c :: _ =>
    if c.isDigit then
      if c = '0' then fail
      skip 1
      return some (c.toNat - '0'.toNat)
    else return none
  | [] => return none

/-- Take the marks after the sign of a block scalar, in either order. -/
def blockMarks : Cut (Chomp × Option Nat) := do
  match ← chompMark with
  | some chomp =>
    let indent ← indentMark
    require fun text => overOr (fun c => c == ' ' || isBreak c) text
    return (chomp, indent)
  | none =>
    let indent ← indentMark
    let chomp ← if indent.isSome then chompMark else pure none
    require fun text => overOr (fun c => c == ' ' || isBreak c) text
    return (chomp.getD .clip, indent)

/-- Take blank lines before a block scalar, and find the widest indentation. -/
def blockIndentation : Nat → Text → Nat → Cut (Text × Nat)
  | 0, breaks, widest => return (breaks, widest)
  | fuel + 1, breaks, widest => do
    let text ← rest
    if follows (· == ' ') text then
      skip 1
      blockIndentation fuel breaks (max widest (← column))
    else if follows isBreak text then blockIndentation fuel (breaks ++ (← lineEnd)) widest
    else return (breaks, widest)

/-- Take spaces up to an indentation. -/
def indentTo (indent : Nat) : Cut Unit := do
  let missing := indent - (← column)
  skip (((← rest).take missing).takeWhile (· == ' ')).length

/-- Take blank lines inside a block scalar, and the indentation after them. -/
def blockBreaks (indent : Nat) : Nat → Text → Cut Text
  | 0, breaks => return breaks
  | fuel + 1, breaks => do
    indentTo indent
    if follows isBreak (← rest) then blockBreaks indent fuel (breaks ++ (← lineEnd))
    else return breaks

/-- Take the lines of a block scalar: the text so far, the last line end and the
blank lines after it. -/
def blockLines (folded : Bool) (indent : Nat) :
    Nat → Text → Text → Text → Cut (Text × Text × Text)
  | 0, text, last, breaks => return (text, last, breaks)
  | fuel + 1, text, last, breaks => do
    let here ← rest
    if (← column) ≠ indent || here.isEmpty then return (text, last, breaks)
    let startsFlush := !follows (fun c => c == ' ' || c == '\t') here
    let run ← takeWhile fun c => !isBreak c
    let text := text ++ breaks ++ run
    let last ← lineEnd
    let breaks ← blockBreaks indent ((← rest).length + 1) []
    let next ← rest
    if (← column) = indent && !next.isEmpty then
      let joinable := folded && last = ['\n'] && startsFlush
        && !follows (fun c => c == ' ' || c == '\t') next
      let glue := if joinable then (if breaks.isEmpty then [' '] else []) else last
      blockLines folded indent fuel (text ++ glue) last breaks
    else return (text, last, breaks)

/-- Cut out a block scalar below a parent at an indentation. -/
def block (folded : Bool) (parent : Nat) : Cut Text := do
  skip 1
  let (chomp, mark) ← blockMarks
  restOfLine
  let least := max 1 parent
  let length := (← rest).length + 1
  let (indent, breaks) ←
    match mark with
    | some increment =>
      let indent := least + increment - 1
      pure (indent, ← blockBreaks indent length [])
    | none =>
      let (breaks, widest) ← blockIndentation length [] 0
      pure (max least widest, breaks)
  let (text, last, breaks) ← blockLines folded indent length [] [] breaks
  return match chomp with
    | .strip => text
    | .clip => text ++ last
    | .keep => text ++ last ++ breaks

/-! ## Properties -/

/-- Cut out the name of an anchor or an alias. -/
def name : Cut Text := do
  skip 1
  let run ← takeWhile isNameChar
  if run.isEmpty then fail
  require fun text => overOr (fun c => isGap c || "?:,]\x7d%@".toList.contains c || c.toNat = 0x60) text
  return run

/-- Take octets written with percent signs. -/
def percentOctets : Nat → List UInt8 → Cut (List UInt8)
  | 0, octets => return octets
  | fuel + 1, octets => do
    match ← rest with
    | '%' :: a :: b :: _ =>
      match Text.readNat 16 [a, b] with
      | some n =>
        skip 3
        percentOctets fuel (octets ++ [UInt8.ofNat n])
      | none => fail
    | '%' :: _ => fail
    | _ => return octets

/-- Take the characters of a tag. -/
def tagText : Nat → Text → Cut Text
  | 0, text => return text
  | fuel + 1, text => do
    let run ← takeWhile fun c => isTagChar c && c != '%'
    let text := text ++ run
    if follows (· == '%') (← rest) then
      match Utf8.decode (← percentOctets ((← rest).length + 1) []) with
      | .ok part => tagText fuel (text ++ part)
      | .error _ => fail
    else if text.isEmpty then fail
    else return text

/-- Take a handle: a name between exclamation marks, or one mark. -/
def handle : Cut Text := do
  require (follows (· == '!'))
  skip 1
  if follows (· == ' ') (← rest) then return ['!']
  let run ← takeWhile isNameChar
  if follows (· == '!') (← rest) then
    skip 1
    return '!' :: run ++ ['!']
  else fail

/-- Cut out a tag. -/
def tag : Cut Token := do
  let after := (← rest).drop 1
  let length := after.length + 1
  let token ←
    if follows (· == '<') after then
      skip 2
      let suffix ← tagText length []
      require (follows (· == '>'))
      skip 1
      pure (Token.tag none suffix)
    else if atGap after then
      skip 1
      pure (Token.tag none ['!'])
    else if (after.takeWhile fun c => !(c == ' ' || isBreak c)).contains '!' then
      let handle ← handle
      pure (Token.tag (some handle) (← tagText length []))
    else
      skip 1
      pure (Token.tag (some ['!']) (← tagText length []))
  require fun text => overOr (fun c => c == ' ' || isBreak c) text
  return token

/-- Take a number. -/
def number : Cut Nat := do
  let digits := (← rest).takeWhile Char.isDigit
  if digits.isEmpty then fail
  match Text.readUnsigned 10 digits with
  | .ok n =>
    skip digits.length
    return n
  | .error (.tooLong count) => throw (.tooManyDigits count)
  | .error .malformed => fail

/-- Cut out a directive, with its line. -/
def directive : Cut Token := do
  skip 1
  let name ← takeWhile isNameChar
  if name.isEmpty then fail
  let ends (text : Text) : Bool := overOr (fun c => c == ' ' || isBreak c) text
  require ends
  let token ←
    if name = "YAML".toList then
      skipWhile (· == ' ')
      let major ← number
      require (follows (· == '.'))
      skip 1
      let _ ← number
      require ends
      pure (Token.version major)
    else if name = "TAG".toList then
      skipWhile (· == ' ')
      let handle ← handle
      require (follows (· == ' '))
      skipWhile (· == ' ')
      let leading ← tagText ((← rest).length + 1) []
      require ends
      pure (Token.tagHandle handle leading)
    else
      skipWhile fun c => !isBreak c
      pure Token.otherDirective
  restOfLine
  return token

end Cut

end RequestScript.Yaml
