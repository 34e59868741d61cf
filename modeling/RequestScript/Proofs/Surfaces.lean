import RequestScript.CommandLine.Converter
import RequestScript.Endpoint
import RequestScript.Proofs.Files
import RequestScript.Proofs.Text.LineEnds
import Mathlib.Data.List.Basic

/-!
# All ways to convert a script agree

A script is converted in four ways: as a file among others, as a file that is shown, as a
file that the service is asked for, and as a text that is sent to the service.  A file is
decoded and its line ends are made one; a text that is sent is not.  Faults are told in four
ways as well.  Still all ways give the same commands, or fail with the same message.

Main results:

- Theorem {lit}`Script.commands_normalizeLineEnds`: line ends do not show in commands.
- Theorem {lit}`Converter.run_show`: what the converter does when it is to show a file.
- Definition {lit}`Occasion`: a script on its four ways.
- Theorem {lit}`Occasion.ways_agree`: the four ways agree.
-/

namespace RequestScript

open Text

/-! ## Scripts -/

/-- Line ends do not show in the commands of a script, and not in its fault. -/
theorem Script.commands_normalizeLineEnds {content : Text} (h : Paired content) :
    Script.commands (normalizeLineEnds content) = Script.commands content := by
  rw [Script.commands, Script.commands, Script.requests, Script.requests,
    Script.scan_normalizeLineEnds h]

/-! ## Files among others -/

namespace Conversion

variable {output : Output} {tree : FileTree} {path : Path} {content : Text}

/-- A file whose commands can be written is processed to them. -/
theorem process_of_commands (logger : Logger) (hread : Input.read tree path = .ok content)
    {commands : List Text} (hcommands : Script.commands content = .ok commands)
    {written : FileTree} {target : Path}
    (hwrite : output.write tree path commands = (written, .ok target)) :
    process output logger tree path =
      ⟨written, scanEvents logger content, .ok (target, commands.length)⟩ := by
  rw [process, hread]
  dsimp only
  rw [hcommands]
  dsimp only
  rw [hwrite]

/-- A file that can not be scanned is processed to the fault of its script. -/
theorem process_of_failure (output : Output) (logger : Logger)
    (hread : Input.read tree path = .ok content) {failure : Scan.Failure}
    (hfailure : Script.commands content = .error failure) :
    process output logger tree path =
      ⟨tree, scanEvents logger content, .error (.malformed failure)⟩ := by
  rw [process, hread]
  dsimp only
  rw [hfailure]

/-- A file that can be read and scanned is converted when its commands can be written. -/
theorem convertFile_of_commands (logger : Logger) (hread : Input.read tree path = .ok content)
    {commands : List Text} (hcommands : Script.commands content = .ok commands)
    {written : FileTree} {target : Path}
    (hwrite : output.write tree path commands = (written, .ok target)) :
    (convertFile output logger tree path).tree = written ∧
      (convertFile output logger tree path).result =
        { source := path, ok := true, output := some target, commandCount := commands.length } := by
  unfold convertFile
  dsimp only
  rw [process_of_commands _ hread hcommands hwrite]
  exact ⟨rfl, rfl⟩

/-- A file that can be read but not scanned is not converted, and nothing is written. -/
theorem convertFile_of_failure (output : Output) (logger : Logger)
    (hread : Input.read tree path = .ok content) {failure : Scan.Failure}
    (hfailure : Script.commands content = .error failure) :
    (convertFile output logger tree path).tree = tree ∧
      (convertFile output logger tree path).result =
        { source := path, ok := false, errorMessage := some failure.message } := by
  unfold convertFile
  dsimp only
  rw [process_of_failure _ _ hread hfailure]
  exact ⟨rfl, rfl⟩

end Conversion

/-! ## Files that are shown -/

namespace Converter

open CommandLine

/-- A word that does not begin with a hyphen is an operand. -/
theorem wordsOf_operand {α : Type} (grammar : Grammar α) {word : Text}
    (h : word.head? ≠ some '-') : wordsOf grammar [word] = .ok [.operand word] := by
  have hseparator : word ≠ separatorWord := by
    rintro rfl
    exact h rfl
  have hword : wordOf grammar word = .ok (.operand word) := by
    unfold wordOf
    split
    · simp at h
    · rfl
    · simp at h
    · rfl
  rw [wordsOf, if_neg hseparator, hword]
  rfl

/-- The converter shows the file that a word names, unless the word begins with a hyphen. -/
theorem run_show {word : Text} (h : word.head? ≠ some '-') (environment : Environment)
    (tree : FileTree) :
    run ["show".toList, word] environment tree = «show» (Path.ofText word) tree := by
  have hread : showGrammar.read [word] = .ok { operand := some word } := by
    rw [Grammar.read, wordsOf_operand showGrammar h]
    rfl
  have haction : Action.ofName? "show".toList = some .show := Action.ofName?_name .show
  rw [run, haction]
  dsimp only
  rw [perform, Action.grammar, hread]
  rfl

end Converter

/-! ## Files that the service is asked for -/

namespace Endpoint

/-- A request is refused with a status and a reason. -/
def Answer.Refuses (answer : Answer) (status : Nat) (detail : Text) : Prop :=
  ∃ refusal : Refusal, answer.response = .error (.refused refusal) ∧
    refusal.status = status ∧ refusal.detail = detail

/-- A text with commands is answered with them and their number. -/
theorem response_convert (logger : Logger) {content : Text} {commands : List Text}
    (h : Script.commands content = .ok commands) :
    (convert logger content).response = .ok ⟨commands, commands.length⟩ := by
  rw [convert, h]
  rfl

/-- A text that can not be scanned is refused with 422 and the wording of its fault. -/
theorem refuses_convert (logger : Logger) {content : Text} {failure : Scan.Failure}
    (h : Script.commands content = .error failure) :
    (convert logger content).Refuses 422 failure.message := by
  rw [convert, h]
  exact ⟨.malformed failure, rfl, rfl, rfl⟩

/-- A file that is found and can be read is converted as its text is. -/
theorem convertFeature_of_read {settings : Settings} {tree : FileTree} {name : Text}
    {path : Path} {content : Text} (hfound : (inputOf settings).find? tree name = .ok (some path))
    (hread : Input.read tree path = .ok content) :
    convertFeature settings tree name = convert (loggerFor path.text) content := by
  unfold convertFeature
  rw [hfound]
  dsimp only
  rw [hread]

end Endpoint

/-! ## The four ways -/

/-- A script on its four ways: the settings of the service, where commands are written and
events are told, what surrounds the converter, the files, the path of one of them and the
word that names it, and a text. -/
structure Occasion where
  settings : Settings
  output : Output
  logger : Logger
  environment : Environment
  tree : FileTree
  path : Path
  word : Text
  content : Text

namespace Occasion

/-- The file is converted among others. -/
def converted (occasion : Occasion) : Conversion.Effect Outcome :=
  Conversion.convertFile occasion.output occasion.logger occasion.tree occasion.path

/-- The file is shown. -/
def shown (occasion : Occasion) : Converter.Run :=
  Converter.run ["show".toList, occasion.word] occasion.environment occasion.tree

/-- The service is asked for the file by its stem. -/
def served (occasion : Occasion) : Endpoint.Answer :=
  Endpoint.convertFeature occasion.settings occasion.tree occasion.path.stem

/-- The text is sent to the service. -/
def posted (occasion : Occasion) : Endpoint.Answer :=
  Endpoint.convertContent occasion.content

/-- The file holds the text, the service finds it by its stem, the word names it, and its
commands can be written. -/
structure Ready (occasion : Occasion) : Prop where
  paired : Paired occasion.content
  found : (Endpoint.inputOf occasion.settings).find? occasion.tree occasion.path.stem =
    .ok (some occasion.path)
  holds : occasion.tree.read occasion.path = .ok (Utf8.encode occasion.content)
  names : Path.ofText occasion.word = occasion.path
  operand : occasion.word.head? ≠ some '-'
  writable : occasion.output.Writable occasion.tree occasion.path

/-- All ways give the same commands. -/
structure Gives (occasion : Occasion) (commands : List Text) : Prop where
  converted : occasion.converted.result =
    { source := occasion.path, ok := true, output := some (occasion.output.path occasion.path),
      commandCount := commands.length }
  written : occasion.converted.tree.read (occasion.output.path occasion.path) =
    .ok (Utf8.encode (Command.format commands))
  shown : occasion.shown =
    { tree := occasion.tree, output := Command.format commands, diagnostics := [],
      ending := .exit 0 }
  served : occasion.served.response = .ok ⟨commands, commands.length⟩
  posted : occasion.posted.response = .ok ⟨commands, commands.length⟩

/-- All ways fail with the same message. -/
structure Fails (occasion : Occasion) (message : Text) : Prop where
  converted : occasion.converted.result =
    { source := occasion.path, ok := false, output := none, commandCount := 0,
      errorMessage := some message }
  unwritten : occasion.converted.tree = occasion.tree
  shown : occasion.shown =
    { tree := occasion.tree, output := "ERROR: ".toList ++ message ++ ['\n'], diagnostics := [],
      ending := .exit 1 }
  served : occasion.served.Refuses 422 message
  posted : occasion.posted.Refuses 422 message

variable {occasion : Occasion}

/-- The file is read as its text with one kind of line end. -/
theorem Ready.read (h : occasion.Ready) :
    Input.read occasion.tree occasion.path = .ok (normalizeLineEnds occasion.content) :=
  Input.read_encode h.holds

/-- The converter shows the file that the word names. -/
theorem Ready.shown_eq (h : occasion.Ready) :
    occasion.shown = Converter.show occasion.path occasion.tree := by
  rw [shown, Converter.run_show h.operand, h.names]

/-- The service converts the file that it finds. -/
theorem Ready.served_eq (h : occasion.Ready) :
    occasion.served =
      Endpoint.convert (Endpoint.loggerFor occasion.path.text)
        (normalizeLineEnds occasion.content) :=
  Endpoint.convertFeature_of_read h.found h.read

/-- If the text has commands, all ways give them. -/
theorem Ready.gives (h : occasion.Ready) {commands : List Text}
    (hcommands : Script.commands occasion.content = .ok commands) : occasion.Gives commands := by
  have hread := h.read
  have hstored : Script.commands (normalizeLineEnds occasion.content) = .ok commands := by
    rw [Script.commands_normalizeLineEnds h.paired, hcommands]
  rcases Output.exists_write_eq h.writable commands with ⟨written, hwrite, hholds⟩
  rcases Conversion.convertFile_of_commands occasion.logger hread hstored hwrite with
    ⟨htree, hresult⟩
  constructor
  · exact hresult
  · rw [converted, htree, hholds]
  · rw [h.shown_eq, Converter.show, hread]
    dsimp only
    rw [hstored]
    dsimp only
    rw [Converter.tell_plain, List.flatten_singleton]
  · rw [h.served_eq]
    exact Endpoint.response_convert _ hstored
  · exact Endpoint.response_convert _ hcommands

/-- If the text can not be scanned, all ways fail with the wording of its fault. -/
theorem Ready.fails (h : occasion.Ready) {failure : Scan.Failure}
    (hfailure : Script.commands occasion.content = .error failure) :
    occasion.Fails failure.message := by
  have hread := h.read
  have hstored : Script.commands (normalizeLineEnds occasion.content) = .error failure := by
    rw [Script.commands_normalizeLineEnds h.paired, hfailure]
  rcases Conversion.convertFile_of_failure occasion.output occasion.logger hread hstored with
    ⟨htree, hresult⟩
  constructor
  · exact hresult
  · exact htree
  · rw [h.shown_eq, Converter.show, hread]
    dsimp only
    rw [hstored]
    exact Converter.failed_plain _ _ rfl
  · rw [h.served_eq]
    exact Endpoint.refuses_convert _ hstored
  · exact Endpoint.refuses_convert _ hfailure

/-- The four ways to convert a script agree: they give its commands, or they fail with the
message of its fault. -/
theorem ways_agree (h : occasion.Ready) :
    (∃ commands, Script.commands occasion.content = .ok commands ∧ occasion.Gives commands) ∨
      ∃ failure, Script.commands occasion.content = .error failure ∧
        occasion.Fails failure.message := by
  cases hscan : Script.commands occasion.content with
  | ok commands => exact Or.inl ⟨commands, rfl, h.gives hscan⟩
  | error failure => exact Or.inr ⟨failure, rfl, h.fails hscan⟩

/-- A feature file with the given text, in the directory where the service finds it. -/
def sample (content : Text) : Occasion where
  settings := {}
  output := { directory := {} }
  logger := {}
  environment := ∅
  tree :=
    { entries := ⟨[(["features".toList], .directory),
        (["features".toList, "a.feature".toList], .file (Utf8.encode content))]⟩ }
  path := Path.ofText "features/a.feature".toList
  word := (Path.ofText "features/a.feature".toList).text
  content := content

/-- A script with carriage returns before its newlines. -/
def windows : Text :=
  "* url 'http://h'\r\n* method get\r\n".toList

/-- A script that ends in a definition without a value. -/
def unended : Text :=
  "* url 'http://h'\r\n* def a =".toList

/-- The feature file is the only one that is found. -/
theorem files_sample (content : Text) :
    (Endpoint.inputOf {}).files (sample content).tree = .ok [(sample content).path] := by
  have hselected : (Endpoint.inputOf {}).selected (sample content).tree
      [.wild (Glob.pieces "*.feature".toList)] = .ok [(sample content).path] := by
    change Except.ok ([(sample content).path].mergeSort Path.le) = _
    rw [List.mergeSort_singleton]
  change ((Endpoint.inputOf {}).selected (sample content).tree
    [.wild (Glob.pieces "*.feature".toList)]).mapError Input.SearchFault.path = _
  rw [hselected]
  rfl

/-- The feature file is on all its ways. -/
theorem ready_sample {content : Text} (h : Paired content) : (sample content).Ready := by
  constructor
  · exact h
  · change (do return (← (Endpoint.inputOf {}).files (sample content).tree).find? _) = _
    rw [files_sample]
    rfl
  · rfl
  · exact Path.ofText_text "features/a.feature".toList
  · have hfirst : (sample content).word.head? = some 'f' := rfl
    rw [hfirst]
    decide
  · have htarget : (sample content).output.path (sample content).path =
        ⟨.workingDirectory, ["a.txt".toList]⟩ := by
      change Output.path { directory := {} } (Path.ofText "features/a.feature".toList) = _
      decide +kernel
    have hfree : (sample content).tree.entryAt ["a.txt".toList] = none := rfl
    rw [Output.Writable, htarget]
    refine ⟨(sample content).tree, ["a.txt".toList], rfl, rfl, ?_⟩
    rw [hfree]
    simp

theorem ways_agree_samples :
    (sample windows).Gives ["curl -X GET -H 'Accept: application/json' 'http://h'".toList] ∧
      (sample unended).Fails "line 2: no value for variable 'a': '* def a ='".toList := by
  constructor
  · have hready : (sample windows).Ready := ready_sample (by decide +kernel)
    have hscan : Script.commands (sample windows).content =
        .ok ["curl -X GET -H 'Accept: application/json' 'http://h'".toList] := by
      decide +kernel
    rcases ways_agree hready with ⟨commands, hcommands, hgives⟩ | ⟨failure, hfailure, -⟩
    · rw [hscan] at hcommands
      cases hcommands
      exact hgives
    · rw [hscan] at hfailure
      cases hfailure
  · have hready : (sample unended).Ready := ready_sample (by decide +kernel)
    have hscan : (Script.commands (sample unended).content).mapError Scan.Failure.message =
        .error "line 2: no value for variable 'a': '* def a ='".toList := by
      decide +kernel
    rcases ways_agree hready with ⟨commands, hcommands, -⟩ | ⟨failure, hfailure, hfails⟩
    · rw [hcommands] at hscan
      cases hscan
    · rw [hfailure] at hscan
      have hmessage : failure.message = "line 2: no value for variable 'a': '* def a ='".toList :=
        Except.error.inj hscan
      rw [hmessage] at hfails
      exact hfails

end Occasion
end RequestScript
