import RequestScript.Request
import RequestScript.Proofs.Classification

/-!
# Printing requests

A list of requests is printed as a script with one scenario for each request.  A body is
printed as the block of a variable, which the scenario then sends.

What is printed can be read again if every part fits its place: no part but the body
holds a newline, names are names, values do not change when they are trimmed or lose
their quotes, and no variable occurs in what is printed after its definition.

Main results:

- Definition {lit}`Script.print`: the script of a list of requests.
- Definition {lit}`Scenario.WellFormed`: the parts of a request fit their places.
- Definition {lit}`Scenario.exposed`: the texts in which no earlier variable may occur.
-/

namespace RequestScript

open Text

/-! ## Lines -/

namespace Statement

/-- A line with a value between quotes. -/
def quotedLine (keyword : Keyword) (value : Text) : Text :=
  headed .star [' '] keyword (' ' :: '\'' :: (value ++ ['\'']))

/-- A line with a name and its value. -/
def assignedLine (keyword : Keyword) (name value : Text) : Text :=
  headed .star [' '] keyword (' ' :: (name ++ ' ' :: '=' :: ' ' :: value))

/-- A line with one word. -/
def wordLine (keyword : Keyword) (word : Text) : Text :=
  headed .star [' '] keyword (' ' :: word)

end Statement

open Statement

/-- The line that opens a block, after the equals sign, and the line that closes it. -/
def blockMark : Text := "\"\"\"".toList

/-! ## Scenarios -/

/-- A request to be printed, with the title of its scenario and the variable that holds
its body. -/
structure Scenario where
  title : Text
  request : Request
  bodyName : Text
deriving DecidableEq, Repr

namespace Scenario

/-- The lines with the address, the headers and the parameters. -/
def settings (scenario : Scenario) : List Text :=
  [quotedLine .url scenario.request.baseUrl, quotedLine .path scenario.request.path]
    ++ scenario.request.headers.entries.map (fun header => assignedLine .header header.1 header.2)
    ++ scenario.request.params.entries.map (fun param => assignedLine .param param.1 param.2)

/-- The lines with the body, if there is one. -/
def bodyLines (scenario : Scenario) : List Text :=
  if scenario.request.body = [] then []
  else
    assignedLine .define scenario.bodyName blockMark :: (Text.lines scenario.request.body
      ++ [blockMark, wordLine .request scenario.bodyName])

/-- The line with the method. -/
def methodLine (scenario : Scenario) : Text :=
  wordLine .method scenario.request.method

/-- The lines of a scenario. -/
def lines (scenario : Scenario) : List Text :=
  ["Scenario:".toList ++ ' ' :: scenario.title] ++ scenario.settings ++ scenario.bodyLines
    ++ [scenario.methodLine]

end Scenario

/-- The script of a list of requests. -/
def Script.print (scenarios : List Scenario) : Text :=
  Text.unlines (scenarios.flatMap Scenario.lines)

example :
    Script.print [{
      title := "a".toList
      request := {
        method := "PUT".toList
        baseUrl := "u".toList
        headers := ⟨[("Accept".toList, "b".toList)]⟩
        body := "c".toList }
      bodyName := "d".toList }] =
    ("Scenario: a\n* url 'u'\n* path ''\n* header Accept = b\n" ++
      "* def d = \"\"\"\nc\n\"\"\"\n* request d\n* method PUT").toList := by
  decide

/-! ## Well-formed scenarios -/

/-- The entries of a map fit on lines: the names are different names, and the values lose
nothing when they are trimmed and their quotes are removed. -/
structure Assignable (m : OrderedMap Text Text) : Prop where
  nodup : m.keys.Nodup
  name : ∀ entry ∈ m.entries, IsName entry.1
  newline : ∀ entry ∈ m.entries, '\n' ∉ entry.2
  trimmed : ∀ entry ∈ m.entries, trim entry.2 = entry.2
  unquoted : ∀ entry ∈ m.entries, ∀ c ∈ entry.2, Literal.isQuote c = false

instance (m : OrderedMap Text Text) : Decidable (Assignable m) :=
  decidable_of_iff
    (m.keys.Nodup ∧ (∀ entry ∈ m.entries, IsName entry.1) ∧ (∀ entry ∈ m.entries, '\n' ∉ entry.2) ∧
      (∀ entry ∈ m.entries, trim entry.2 = entry.2) ∧
        ∀ entry ∈ m.entries, ∀ c ∈ entry.2, Literal.isQuote c = false)
    ⟨fun ⟨nodup, name, newline, trimmed, unquoted⟩ => ⟨nodup, name, newline, trimmed, unquoted⟩,
      fun h => ⟨h.nodup, h.name, h.newline, h.trimmed, h.unquoted⟩⟩

/-- A body fits into a block: its lines are trimmed and do not close the block, and it
neither begins nor ends with a blank or a quote. -/
structure Blockable (body : Text) : Prop where
  trimmed : ∀ line ∈ Text.lines body, trim line = line
  unclosed : ∀ line ∈ Text.lines body, Literal.closesBlock line = false
  head : ∀ c ∈ body.head?, isBlank c = false ∧ Literal.isQuote c = false
  last : ∀ c ∈ body.getLast?, isBlank c = false ∧ Literal.isQuote c = false

instance (body : Text) : Decidable (Blockable body) :=
  have : Decidable (∀ c ∈ body.head?, isBlank c = false ∧ Literal.isQuote c = false) :=
    Option.decidableForallMem _
  have : Decidable (∀ c ∈ body.getLast?, isBlank c = false ∧ Literal.isQuote c = false) :=
    Option.decidableForallMem _
  decidable_of_iff
    ((∀ line ∈ Text.lines body, trim line = line) ∧
      (∀ line ∈ Text.lines body, Literal.closesBlock line = false) ∧
        (∀ c ∈ body.head?, isBlank c = false ∧ Literal.isQuote c = false) ∧
          ∀ c ∈ body.getLast?, isBlank c = false ∧ Literal.isQuote c = false)
    ⟨fun ⟨trimmed, unclosed, head, last⟩ => ⟨trimmed, unclosed, head, last⟩,
      fun h => ⟨h.trimmed, h.unclosed, h.head, h.last⟩⟩

/-- A body that fits into a block is the value of its lines. -/
theorem Blockable.stripQuotes_unlines {body : Text} (h : Blockable body) :
    Literal.stripQuotes (trim (unlines (Text.lines body))) = body := by
  have hlines : unlines (Text.lines body) = body := List.intercalate_splitOn '\n'
  have htrim : trim body = body :=
    strip_eq_self (fun c hc => (h.head c hc).1) fun c hc => (h.last c hc).1
  rw [hlines, Literal.stripQuotes, trim_trim, htrim]
  exact strip_eq_self (fun c hc => (h.head c hc).2) fun c hc => (h.last c hc).2

namespace Scenario

/-- The name of a body is a name, and it occurs neither in the words that send the body
nor in the line with the method. -/
structure Sendable (scenario : Scenario) : Prop where
  name : IsName scenario.bodyName
  sending : ¬ scenario.bodyName <:+: headed .star [' '] .request []
  method : ¬ scenario.bodyName <:+: scenario.methodLine

instance (scenario : Scenario) : Decidable scenario.Sendable :=
  decidable_of_iff
    (IsName scenario.bodyName ∧ ¬ scenario.bodyName <:+: headed .star [' '] .request [] ∧
      ¬ scenario.bodyName <:+: scenario.methodLine)
    ⟨fun ⟨name, sending, silent⟩ => ⟨name, sending, silent⟩,
      fun h => ⟨h.name, h.sending, h.method⟩⟩

/-- The parts of a scenario fit their places. -/
structure WellFormed (scenario : Scenario) : Prop where
  title : '\n' ∉ scenario.title
  method : IsWord scenario.request.method
  upper : Text.upper scenario.request.method = scenario.request.method
  baseUrl : scenario.request.baseUrl ≠ []
  baseUrlLine : '\n' ∉ scenario.request.baseUrl
  pathLine : '\n' ∉ scenario.request.path
  headers : Assignable scenario.request.headers
  params : Assignable scenario.request.params
  accept : "Accept".toList ∈ scenario.request.headers.keys
  contentType : scenario.request.method ∈ bodyMethods →
    "Content-Type".toList ∈ scenario.request.headers.keys
  body : scenario.request.body ≠ [] → Blockable scenario.request.body
  bodyName : scenario.request.body ≠ [] → scenario.Sendable

instance (scenario : Scenario) : Decidable scenario.WellFormed :=
  decidable_of_iff
    ('\n' ∉ scenario.title ∧ IsWord scenario.request.method ∧
      Text.upper scenario.request.method = scenario.request.method ∧
      scenario.request.baseUrl ≠ [] ∧ '\n' ∉ scenario.request.baseUrl ∧
      '\n' ∉ scenario.request.path ∧ Assignable scenario.request.headers ∧
      Assignable scenario.request.params ∧ "Accept".toList ∈ scenario.request.headers.keys ∧
      (scenario.request.method ∈ bodyMethods →
        "Content-Type".toList ∈ scenario.request.headers.keys) ∧
      (scenario.request.body ≠ [] → Blockable scenario.request.body) ∧
      (scenario.request.body ≠ [] → scenario.Sendable))
    ⟨fun ⟨title, word, upper, baseUrl, baseUrlLine, pathLine, headers, params, accept,
        contentType, body, bodyName⟩ => ⟨title, word, upper, baseUrl, baseUrlLine, pathLine,
        headers, params, accept, contentType, body, bodyName⟩,
      fun h => ⟨h.title, h.method, h.upper, h.baseUrl, h.baseUrlLine, h.pathLine, h.headers,
        h.params, h.accept, h.contentType, h.body, h.bodyName⟩⟩

/-- The texts of a scenario in which the variable of an earlier body may not occur.  The
title of a scenario, a body and the word after the request keyword are not among them. -/
def exposed (scenario : Scenario) : List Text :=
  ["Scenario:".toList] ++ scenario.settings
    ++ (if scenario.request.body = [] then []
      else [assignedLine .define scenario.bodyName blockMark, headed .star [' '] .request []])
    ++ [scenario.methodLine]

/-- The variable of a body does not occur in what is printed after it. -/
def Spares (scenario later : Scenario) : Prop :=
  scenario.request.body ≠ [] → ∀ text ∈ later.exposed, ¬ scenario.bodyName <:+: text

instance (scenario later : Scenario) : Decidable (scenario.Spares later) :=
  inferInstanceAs
    (Decidable (scenario.request.body ≠ [] → ∀ text ∈ later.exposed, ¬ scenario.bodyName <:+: text))

end Scenario
end RequestScript
