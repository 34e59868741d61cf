import RequestScript.Proofs.Files.Patterns
import RequestScript.Proofs.Surfaces

/-!
# When the service answers

The service is asked for a feature file by its stem.  It should answer with the commands of the
file, or refuse with a status: 404 if no file has the stem, 500 if the file is no text, and 422
if its text is malformed.  It does so unless something fails that it does not expect.  The files
may not be listed, since their pattern is none or a path is too long, and the octets of the file
may be no text.  The last is what the status 500 is meant for.

The files are those of a {lit}`FileTree`, which knows no permissions, links or special files.  In
such a tree a listed file can always be opened, so the answer with status 500 does not occur, and
octets that are no text are the only reason why a listed file is not read.  Where a file system
forbids to open a file that it lists, the answer is 500, and that is outside of what is told here.

Main results:

- Definition {lit}`Endpoint.AnswersOrRefuses`: how the service should answer.
- Definition {lit}`Endpoint.Surprised`: what the service does not expect.
- Theorem {lit}`Endpoint.convertFeature_cases`: what the service does.
- Theorem {lit}`Endpoint.answersOrRefuses_iff`: the service answers as it should exactly when it
  is not surprised.
-/

namespace RequestScript
namespace Endpoint

variable {settings : Settings} {tree : FileTree} {name : Text}

/-! ## The file that is meant -/

/-- A path is the first of the listed feature files with a stem. -/
def First (settings : Settings) (tree : FileTree) (name : Text) (path : Path) : Prop :=
  ∃ paths, (inputOf settings).files tree = .ok paths ∧
    paths.find? (fun other => other.stem = name) = some path

/-- Only one path is the first with a stem. -/
theorem First.unique {path other : Path} (h : First settings tree name path)
    (hother : First settings tree name other) : path = other := by
  rcases h with ⟨paths, hfiles, hfirst⟩
  rcases hother with ⟨paths', hfiles', hfirst'⟩
  rw [hfiles] at hfiles'
  obtain rfl := Except.ok.inj hfiles'
  rw [hfirst] at hfirst'
  exact Option.some.inj hfirst'

/-- The file that is meant can be opened. -/
theorem First.exists_read {path : Path} (h : First settings tree name path) :
    ∃ octets, tree.read path = .ok octets := by
  rcases h with ⟨paths, hfiles, hfirst⟩
  exact Input.exists_read_of_mem_files hfiles (List.mem_of_find?_eq_some hfirst)

/-- The stem of the file that is meant is a feature. -/
theorem First.mem_features {path : Path} (h : First settings tree name path) {names : List Text}
    (hnames : features settings tree = .ok names) : name ∈ names := by
  rcases h with ⟨paths, hfiles, hfirst⟩
  rw [features, hfiles] at hnames
  obtain rfl := Except.ok.inj hnames
  have hstem : path.stem = name := by simpa using List.find?_some hfirst
  rw [← hstem]
  exact List.mem_map_of_mem (List.mem_of_find?_eq_some hfirst)

/-- A file is found among those that are listed. -/
theorem find?_eq (input : Input) (tree : FileTree) (stem : Text) :
    input.find? tree stem =
      (input.files tree).map (·.find? fun path => path.stem = stem) := by
  rw [Input.find?]
  cases input.files tree <;> rfl

/-! ## What the service does -/

/-- Where files can not be listed, the service fails with that fault. -/
theorem response_of_unfound {fault : Input.SearchFault}
    (h : (inputOf settings).files tree = .error fault) (name : Text) :
    (convertFeature settings tree name).response = .error (.unfound fault) := by
  rw [convertFeature, find?_eq, h]
  rfl

/-- The first file with a stem is the one that is found. -/
theorem First.find?_eq {path : Path} (h : First settings tree name path) :
    (inputOf settings).find? tree name = .ok (some path) := by
  rcases h with ⟨paths, hfiles, hfirst⟩
  rw [Endpoint.find?_eq, hfiles, Except.map, hfirst]

/-- A file whose octets are no text makes the service fail. -/
theorem response_of_undecodable {path : Path} {octets : List UInt8} {cause : Utf8.Fault}
    (hfirst : First settings tree name path) (hread : tree.read path = .ok octets)
    (hdecode : Utf8.decode octets = .error cause) :
    (convertFeature settings tree name).response = .error (.unread (.undecodable cause)) := by
  rw [convertFeature, hfirst.find?_eq]
  dsimp only
  rw [Input.read, hread]
  dsimp only
  rw [hdecode]
  rfl

/-- The service does not list its files, finds no file, finds one that is no text, or converts
the text that it finds. -/
theorem convertFeature_cases (settings : Settings) (tree : FileTree) (name : Text) :
    (∃ fault, (inputOf settings).files tree = .error fault) ∨
      (∃ names, features settings tree = .ok names ∧ name ∉ names ∧
        (convertFeature settings tree name).response = .error (.refused (.noSuchFeature name))) ∨
      (∃ path octets cause, First settings tree name path ∧ tree.read path = .ok octets ∧
        Utf8.decode octets = .error cause) ∨
      ∃ path content, First settings tree name path ∧ Input.read tree path = .ok content ∧
        (convertFeature settings tree name).response =
          (convert (loggerFor path.text) content).response := by
  cases hfiles : (inputOf settings).files tree with
  | error fault => exact Or.inl ⟨fault, rfl⟩
  | ok paths =>
    right
    cases hfirst : paths.find? fun path => path.stem = name with
    | none =>
      left
      refine ⟨paths.map Path.stem, by rw [features, hfiles]; rfl, ?_, ?_⟩
      · intro hmem
        rcases List.mem_map.mp hmem with ⟨path, hpath, hstem⟩
        simpa [hstem] using List.find?_eq_none.mp hfirst path hpath
      · rw [convertFeature, find?_eq, hfiles, Except.map, hfirst]
        rfl
    | some path =>
      right
      have hmeant : First settings tree name path := ⟨paths, hfiles, hfirst⟩
      rcases hmeant.exists_read with ⟨octets, hread⟩
      cases hdecode : Utf8.decode octets with
      | error cause => exact Or.inl ⟨path, octets, cause, hmeant, hread, hdecode⟩
      | ok text =>
        right
        have hcontent : Input.read tree path = .ok (Text.normalizeLineEnds text) := by
          rw [Input.read, hread]
          dsimp only
          rw [hdecode]
        refine ⟨path, _, hmeant, hcontent, ?_⟩
        rw [convertFeature_of_read hmeant.find?_eq hcontent]

/-! ## How the service should answer -/

/-- The service answers with the commands of the file that is meant, or it refuses: with 404
exactly if the name is no feature, with 500 exactly if the file is no text, and with 422 and the
message of the fault exactly if its text is malformed. -/
structure AnswersOrRefuses (settings : Settings) (tree : FileTree) (name : Text) : Prop where
  answers : ∀ response, (convertFeature settings tree name).response = .ok response ↔
    ∃ path content, First settings tree name path ∧ Input.read tree path = .ok content ∧
      Script.commands content = .ok response.commands ∧
      response.count = response.commands.length
  noFeature : (∃ detail, (convertFeature settings tree name).Refuses 404 detail) ↔
    ∃ names, features settings tree = .ok names ∧ name ∉ names
  noText : (∃ detail, (convertFeature settings tree name).Refuses 500 detail) ↔
    ∃ path, First settings tree name path ∧ ∀ content, Input.read tree path ≠ .ok content
  malformed : ∀ detail, (convertFeature settings tree name).Refuses 422 detail ↔
    ∃ path content failure, First settings tree name path ∧
      Input.read tree path = .ok content ∧ Script.commands content = .error failure ∧
      failure.message = detail
  nothingElse : ∀ failure, (convertFeature settings tree name).response = .error failure →
    ∃ refusal, failure = .refused refusal

/-- Something fails that the service does not expect. -/
inductive Surprised (settings : Settings) (tree : FileTree) (name : Text) : Prop where
  | pattern {cause : Glob.Fault} (hthere : tree.isDirectory settings.featuresDirectory = .ok true)
      (hrejected : Glob.Rejected settings.pattern cause)
  | path {cause : FileTree.Fault} (hlong : cause.IsTooLong)
      (hfiles : (inputOf settings).files tree = .error (.path cause))
  | octets {path : Path} {octets : List UInt8} {cause : Utf8.Fault}
      (hfirst : First settings tree name path) (hread : tree.read path = .ok octets)
      (hdecode : Utf8.decode octets = .error cause)

/-- A service that is surprised fails, and not by a refusal. -/
theorem Surprised.unexpected (h : Surprised settings tree name) (hwf : tree.WellFormed) :
    ∃ failure, (convertFeature settings tree name).response = .error failure ∧
      ∀ refusal, failure ≠ .refused refusal := by
  cases h with
  | @pattern cause hthere hrejected =>
    have hfiles : (inputOf settings).files tree = .error (.pattern cause) :=
      (Input.files_eq_error hwf).mpr (Or.inl ⟨cause, rfl, hthere, hrejected⟩)
    exact ⟨_, response_of_unfound hfiles name, by simp⟩
  | path _ hfiles => exact ⟨_, response_of_unfound hfiles name, by simp⟩
  | octets hfirst hread hdecode => exact ⟨_, response_of_undecodable hfirst hread hdecode, by simp⟩

/-- An answer with commands refuses nothing. -/
theorem not_refuses_of_ok {answer : Answer} {response : Response}
    (h : answer.response = .ok response) (status : Nat) (detail : Text) :
    ¬ answer.Refuses status detail := by
  rintro ⟨refusal, hrefusal, -, -⟩
  rw [h] at hrefusal
  cases hrefusal

/-- A refusal has its own status and its own reason, and no other. -/
theorem refuses_iff {answer : Answer} {refusal : Refusal}
    (h : answer.response = .error (.refused refusal)) (status : Nat) (detail : Text) :
    answer.Refuses status detail ↔ refusal.status = status ∧ refusal.detail = detail := by
  constructor
  · rintro ⟨other, hother, hstatus, hdetail⟩
    rw [h] at hother
    cases hother
    exact ⟨hstatus, hdetail⟩
  · rintro ⟨hstatus, hdetail⟩
    exact ⟨refusal, h, hstatus, hdetail⟩

/-- The service answers as it should if it refuses a name that no file has. -/
theorem answersOrRefuses_of_noFeature {names : List Text}
    (hnames : features settings tree = .ok names) (hname : name ∉ names)
    (hresponse : (convertFeature settings tree name).response =
      .error (.refused (.noSuchFeature name))) : AnswersOrRefuses settings tree name := by
  have hnone : ∀ path, ¬ First settings tree name path :=
    fun path hfirst => hname (hfirst.mem_features hnames)
  have hstatus : ∀ status detail, (convertFeature settings tree name).Refuses status detail →
      status = 404 := by
    intro status detail hrefuses
    exact ((refuses_iff hresponse status detail).mp hrefuses).1.symm
  constructor
  case answers =>
    intro response
    constructor
    · intro h
      rw [hresponse] at h
      cases h
    · rintro ⟨path, -, hfirst, -⟩
      exact absurd hfirst (hnone path)
  case noFeature =>
    constructor
    · intro _
      exact ⟨names, hnames, hname⟩
    · intro _
      exact ⟨_, (refuses_iff hresponse 404 _).mpr ⟨rfl, rfl⟩⟩
  case noText =>
    constructor
    · rintro ⟨detail, hrefuses⟩
      exact absurd (hstatus 500 detail hrefuses) (by decide)
    · rintro ⟨path, hfirst, -⟩
      exact absurd hfirst (hnone path)
  case malformed =>
    intro detail
    constructor
    · intro hrefuses
      exact absurd (hstatus 422 detail hrefuses) (by decide)
    · rintro ⟨path, -, -, hfirst, -⟩
      exact absurd hfirst (hnone path)
  case nothingElse =>
    intro failure h
    rw [hresponse] at h
    cases h
    exact ⟨_, rfl⟩

section Found

variable {path : Path} {content : Text} (hfirst : First settings tree name path)
include hfirst

/-- The name of a file that is found is a feature. -/
theorem not_noFeature : ¬ ∃ names, features settings tree = .ok names ∧ name ∉ names := by
  rintro ⟨names, hnames, hname⟩
  exact hname (hfirst.mem_features hnames)

variable (hread : Input.read tree path = .ok content)
include hread

/-- A file that has been read is a text. -/
theorem not_noText : ¬ ∃ other, First settings tree name other ∧
    ∀ text, Input.read tree other ≠ .ok text := by
  rintro ⟨other, hother, hnone⟩
  rw [← hfirst.unique hother] at hnone
  exact hnone content hread

/-- What is said of the text of the file that is meant. -/
theorem exists_first_iff (holds : Text → Prop) :
    (∃ other text, First settings tree name other ∧ Input.read tree other = .ok text ∧
      holds text) ↔ holds content := by
  constructor
  · rintro ⟨other, text, hother, htext, h⟩
    rw [← hfirst.unique hother, hread] at htext
    rw [Except.ok.inj htext]
    exact h
  · intro h
    exact ⟨path, content, hfirst, hread, h⟩

/-- The service answers as it should if it gives the commands of the file. -/
theorem answersOrRefuses_of_commands {commands : List Text}
    (hcommands : Script.commands content = .ok commands)
    (hresponse : (convertFeature settings tree name).response =
      .ok ⟨commands, commands.length⟩) : AnswersOrRefuses settings tree name := by
  have hrefuses := not_refuses_of_ok hresponse
  constructor
  case answers =>
    intro response
    rw [exists_first_iff hfirst hread fun text => Script.commands text = .ok response.commands ∧
      response.count = response.commands.length, hcommands, hresponse]
    rcases response with ⟨others, count⟩
    constructor
    · intro h
      cases h
      exact ⟨rfl, rfl⟩
    · rintro ⟨hsame, hcount⟩
      dsimp only at hsame hcount
      rw [hcount, Except.ok.inj hsame]
  case noFeature =>
    exact iff_of_false (fun ⟨detail, h⟩ => hrefuses 404 detail h) (not_noFeature hfirst)
  case noText =>
    exact iff_of_false (fun ⟨detail, h⟩ => hrefuses 500 detail h) (not_noText hfirst hread)
  case malformed =>
    intro detail
    apply iff_of_false (hrefuses 422 detail)
    rintro ⟨other, text, failure, hother, htext, hfailure, -⟩
    rw [← hfirst.unique hother, hread] at htext
    rw [← Except.ok.inj htext, hcommands] at hfailure
    cases hfailure
  case nothingElse =>
    intro failure h
    rw [hresponse] at h
    cases h

/-- The service answers as it should if it refuses a file that is malformed. -/
theorem answersOrRefuses_of_malformed {failure : Scan.Failure}
    (hfailure : Script.commands content = .error failure)
    (hresponse : (convertFeature settings tree name).response =
      .error (.refused (.malformed failure))) : AnswersOrRefuses settings tree name := by
  have hstatus : ∀ status detail, (convertFeature settings tree name).Refuses status detail →
      status = 422 := by
    intro status detail hrefuses
    exact ((refuses_iff hresponse status detail).mp hrefuses).1.symm
  constructor
  case answers =>
    intro response
    rw [exists_first_iff hfirst hread fun text => Script.commands text = .ok response.commands ∧
      response.count = response.commands.length, hfailure, hresponse]
    constructor
    · intro h
      cases h
    · rintro ⟨h, -⟩
      cases h
  case noFeature =>
    exact iff_of_false (fun ⟨detail, h⟩ => absurd (hstatus 404 detail h) (by decide))
      (not_noFeature hfirst)
  case noText =>
    exact iff_of_false (fun ⟨detail, h⟩ => absurd (hstatus 500 detail h) (by decide))
      (not_noText hfirst hread)
  case malformed =>
    intro detail
    rw [refuses_iff hresponse]
    constructor
    · rintro ⟨-, hdetail⟩
      exact ⟨path, content, failure, hfirst, hread, hfailure, hdetail⟩
    · rintro ⟨other, text, found, hother, htext, hfound, hdetail⟩
      rw [← hfirst.unique hother, hread] at htext
      rw [← Except.ok.inj htext, hfailure] at hfound
      rw [Except.error.inj hfound]
      exact ⟨rfl, hdetail⟩
  case nothingElse =>
    intro other h
    rw [hresponse] at h
    cases h
    exact ⟨_, rfl⟩

end Found

/-- The service answers with the commands of the file that is meant or refuses as it should,
unless it is surprised: its files can not be listed, or the file is no text. -/
theorem answersOrRefuses_iff (settings : Settings) (name : Text) (hwf : tree.WellFormed) :
    AnswersOrRefuses settings tree name ↔ ¬ Surprised settings tree name := by
  constructor
  · intro hanswers hsurprised
    rcases hsurprised.unexpected hwf with ⟨failure, hresponse, hfailure⟩
    rcases hanswers.nothingElse failure hresponse with ⟨refusal, hrefusal⟩
    exact hfailure refusal hrefusal
  · intro hcalm
    rcases convertFeature_cases settings tree name with
      ⟨fault, hfiles⟩ | ⟨names, hnames, hname, hresponse⟩ |
      ⟨path, octets, cause, hfirst, hread, hdecode⟩ | ⟨path, content, hfirst, hread, hresponse⟩
    · -- nothing is listed only for a pattern or a path that the service does not expect
      exfalso
      rcases (Input.files_eq_error hwf).mp hfiles with
        ⟨cause, -, hthere, hrejected⟩ | ⟨cause, -, hlong, hpath⟩
      · exact hcalm (.pattern hthere hrejected)
      · exact hcalm (.path hlong hpath)
    · exact answersOrRefuses_of_noFeature hnames hname hresponse
    · exact absurd (.octets hfirst hread hdecode) hcalm
    · cases hcommands : Script.commands content with
      | ok commands =>
        rw [response_convert _ hcommands] at hresponse
        exact answersOrRefuses_of_commands hfirst hread hcommands hresponse
      | error failure =>
        have hrefused : (convert (loggerFor path.text) content).response =
            .error (.refused (.malformed failure)) := by
          rw [convert, hcommands]
          rfl
        rw [hrefused] at hresponse
        exact answersOrRefuses_of_malformed hfirst hread hcommands hresponse

/-- A feature file that is no text. -/
def unreadableTree : FileTree :=
  { entries := ⟨[(["features".toList], .directory),
      (["features".toList, "a.feature".toList], .file [0xff])]⟩ }

theorem files_unreadableTree :
    (inputOf {}).files unreadableTree = .ok [.ofText "features/a.feature".toList] := by
  have hsteps : Glob.stepsOf (inputOf {}).pattern =
      .ok [.wild (Glob.pieces "*.feature".toList)] := by
    decide +kernel
  have hfound : Glob.select unreadableTree [.wild (Glob.pieces "*.feature".toList)]
      (inputOf {}).directory = .ok [.ofText "features/a.feature".toList] := by
    decide +kernel
  exact Input.files_of_sorted (by decide +kernel) hsteps hfound (by decide +kernel)
    (List.pairwise_singleton _ _)

theorem answersOrRefuses_iff_unreadableTree :
    ¬ AnswersOrRefuses {} unreadableTree "a".toList ∧
      AnswersOrRefuses {} unreadableTree "b".toList := by
  have hwf : unreadableTree.WellFormed := by decide +kernel
  constructor
  · have hfirst : First {} unreadableTree "a".toList (.ofText "features/a.feature".toList) :=
      ⟨_, files_unreadableTree, by decide +kernel⟩
    have hread : unreadableTree.read (.ofText "features/a.feature".toList) = .ok [0xff] := rfl
    have hdecode : Utf8.decode [0xff] = .error ⟨0, 1, 0xff, .start⟩ := by decide +kernel
    rw [answersOrRefuses_iff {} "a".toList hwf, not_not]
    exact .octets hfirst hread hdecode
  · rw [answersOrRefuses_iff {} "b".toList hwf]
    intro hsurprised
    have hfiles := files_unreadableTree
    cases hsurprised with
    | @pattern cause hthere hrejected =>
      have hnone : (inputOf {}).files unreadableTree = .error (.pattern cause) :=
        (Input.files_eq_error hwf).mpr (Or.inl ⟨cause, rfl, hthere, hrejected⟩)
      rw [hnone] at hfiles
      cases hfiles
    | path _ hnone =>
      rw [hnone] at hfiles
      cases hfiles
    | octets hfirst _ _ =>
      rcases hfirst with ⟨paths, hother, hfirst⟩
      rw [hfiles] at hother
      have hnone : [Path.ofText "features/a.feature".toList].find?
          (fun other => other.stem = "b".toList) = none := by
        decide +kernel
      rw [← Except.ok.inj hother, hnone] at hfirst
      cases hfirst

end Endpoint
end RequestScript
