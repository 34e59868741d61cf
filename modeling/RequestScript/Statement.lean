import RequestScript.Literal

/-!
# Statements

A line of a script states one thing: it starts a scenario, defines a variable, or
adds a part to the request that is being put together.  A statement begins with a
leader and a keyword; a line with any other beginning states nothing.

Main results:

- Definition {lit}`Statement`: what a line can state.
- Definition {lit}`Malformation`: why a line can not be read.
- Theorem {lit}`Leader.ofText?_spelling` and theorem {lit}`Keyword.ofText?_spelling`:
  leaders and keywords are told by their spelling.
-/

namespace RequestScript

/-- The words that begin a statement. -/
inductive Leader where
  | star
  | also
  | when
deriving DecidableEq, Repr

/-- The spelling of a leader. -/
def Leader.spelling : Leader → Text
  | .star => "*".toList
  | .also => "And".toList
  | .when => "When".toList

/-- The leader that a word spells. -/
def Leader.ofText? (word : Text) : Option Leader :=
  [Leader.star, .also, .when].find? (·.spelling = word)

@[simp]
theorem Leader.ofText?_spelling (leader : Leader) :
    Leader.ofText? leader.spelling = some leader := by
  cases leader <;> decide

/-- The keywords, one for each kind of statement with a leader. -/
inductive Keyword where
  | define
  | url
  | path
  | header
  | method
  | param
  | request
deriving DecidableEq, Repr

/-- The spelling of a keyword. -/
def Keyword.spelling : Keyword → Text
  | .define => "def".toList
  | .url => "url".toList
  | .path => "path".toList
  | .header => "header".toList
  | .method => "method".toList
  | .param => "param".toList
  | .request => "request".toList

/-- The keyword that a word spells. -/
def Keyword.ofText? (word : Text) : Option Keyword :=
  [Keyword.define, .url, .path, .header, .method, .param, .request].find? (·.spelling = word)

@[simp]
theorem Keyword.ofText?_spelling (keyword : Keyword) :
    Keyword.ofText? keyword.spelling = some keyword := by
  cases keyword <;> decide

/-- Whether a leader may stand before a keyword: {lit}`When` introduces a method
and nothing else. -/
def Keyword.admits (keyword : Keyword) (leader : Leader) : Bool :=
  leader != .when || keyword == .method

/-- What a line of a script states. -/
inductive Statement where
  /-- A scenario or a tag begins. -/
  | boundary (text : Text)
  /-- A variable is defined; an empty value stands on the next line. -/
  | definition (leader : Leader) (name value : Text)
  | url (leader : Leader) (url : Text)
  | path (leader : Leader) (path : Text)
  | header (leader : Leader) (name value : Text)
  | method (leader : Leader) (method : Text)
  | param (leader : Leader) (name value : Text)
  /-- The value of a variable becomes the body. -/
  | request (leader : Leader) (variableName : Text)
deriving DecidableEq, Repr

/-- Why a line that begins like a statement can not be read. -/
inductive Malformation where
  /-- The word after the keyword is missing. -/
  | missingOperand
  /-- The sign between name and value is missing. -/
  | missingAssignment
  /-- The script ends where the value of a variable should stand. -/
  | missingValue (name : Text)
deriving DecidableEq, Repr

end RequestScript
