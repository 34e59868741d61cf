import RequestScript.Proofs.CommandLine.Endings
import RequestScript.Proofs.Settings.Precedence

/-!
# The settings of a conversion

The settings of a conversion have four layers: the defaults, the settings file, the environment
and the switches.  Every setting has the text of the last layer that has one for it, whatever the
other settings are.  An entry of the file that offers nothing and a variable of the environment
that is empty have none, but a switch that is given an empty text has.

Only the file can be refused.  It is refused for its first entry that names no setting or holds a
number that is too long to be shown, and what the environment and the switches hold makes no
difference to this.

Main results:

- Definition {lit}`Converter.settledText`: the text of a setting.
- Definition {lit}`Converter.Precedes`: what becomes of the layers.
- Theorem {lit}`Converter.precedes_of_entriesOf`: the layers of a conversion are laid in order.
-/

namespace RequestScript
namespace Converter

open CommandLine

/-! ## Layers -/

/-- The text that the words have for a setting. -/
def switchText (arguments : Arguments Choice) (setting : Setting) : Option Text :=
  (arguments.last? (.setting setting)).join

/-- The text of a setting: that of its switch, or else that of its variable, or else that of its
entry in the settings file, or else its default. -/
def settledText (entries : List (Value × Settings.Offer)) (environment : Environment)
    (arguments : Arguments Choice) (setting : Setting) : Text :=
  (switchText arguments setting).getD
    ((Settings.environmentText environment setting).getD
      ((Settings.entryText entries setting).getD setting.initial))

/-- The settings that the entries of a settings file, the environment and the words give. -/
def settled (entries : List (Value × Settings.Offer)) (environment : Environment)
    (arguments : Arguments Choice) : Except Settings.WriteFault Settings := do
  let settings ← ({} : Settings).merge entries
  (settings.override (Settings.environmentTexts environment)).merge (chosen arguments)

section Layers

variable {arguments : Arguments Choice} {environment : Environment} {tree : FileTree} {path : Path}
  {entries : List (Value × Settings.Offer)}

/-- The settings are those that the layers settle. -/
theorem settingsOf_eq_settled (hfile : settingsFile arguments = some path)
    (hentries : Settings.entriesOf tree path = .ok entries) :
    settingsOf arguments environment tree =
      (settled entries environment arguments).mapError .refused := by
  rw [settingsOf, hfile, Settings.load_of_entriesOf hentries, settled]
  cases ({} : Settings).merge entries <;> rfl

/-- Every switch has a text. -/
def Spelled (arguments : Arguments Choice) : Prop :=
  ∀ setting, arguments.last? (.setting setting) ≠ some none

/-- Every switch offers the text that the words have for it. -/
theorem eq_of_mem_chosen (hspelled : Spelled arguments) {entry : Value × Settings.Offer}
    (h : entry ∈ chosen arguments) :
    ∃ setting text, arguments.last? (.setting setting) = some (some text) ∧
      entry = (.text setting.name, .text text) := by
  rcases mem_chosen.mp h with ⟨setting, value, hvalue, rfl⟩
  cases value with
  | none => exact absurd hvalue (hspelled setting)
  | some text => exact ⟨setting, text, hvalue, rfl⟩

/-- The switches name every setting once. -/
theorem namedOnce_chosen (arguments : Arguments Choice) :
    Settings.NamedOnce (chosen arguments) := by
  rw [Settings.NamedOnce, chosen, List.pairwise_filterMap]
  refine Setting.nodup_all.imp ?_
  intro first second hne entry hentry later hlater setting hname hsame
  rcases Option.map_eq_some_iff.mp hentry with ⟨_, -, rfl⟩
  rcases Option.map_eq_some_iff.mp hlater with ⟨_, -, rfl⟩
  rw [Settings.settingOf?_name, Option.some.injEq] at hname hsame
  exact hne (hname.trans hsame.symm)

/-- The text that the switches hold for a setting is that of its switch. -/
theorem entryText_chosen (hspelled : Spelled arguments) :
    Settings.entryText (chosen arguments) = switchText arguments := by
  funext setting
  apply Option.ext
  intro text
  rw [(namedOnce_chosen arguments).entryText_eq_some_iff, switchText, Option.join_eq_some_iff]
  constructor
  · rintro ⟨entry, hentry, hname, htext⟩
    rcases eq_of_mem_chosen hspelled hentry with ⟨other, given, hgiven, rfl⟩
    rw [Settings.settingOf?_name, Option.some.injEq] at hname
    rw [← hname, hgiven]
    exact congrArg some htext
  · intro hgiven
    exact ⟨_, mem_chosen.mpr ⟨setting, some text, hgiven, rfl⟩, Setting.ofName?_name setting, rfl⟩

/-- The switches form a layer: a setting has the text of its switch, if it has one. -/
theorem merge_chosen (hspelled : Spelled arguments) (texts : Setting → Text) :
    (Settings.ofTexts texts).merge (chosen arguments) =
      .ok (.ofTexts fun setting => (switchText arguments setting).getD (texts setting)) := by
  have hplain : ∀ entry ∈ chosen arguments, ¬ Settings.IsMistyped entry := by
    rintro entry hentry ⟨setting, -, -, hodd⟩
    rcases eq_of_mem_chosen hspelled hentry with ⟨other, text, -, rfl⟩
    cases hodd
  have hfit : ∀ entry ∈ chosen arguments, Settings.Fits entry := by
    intro entry hentry
    rcases eq_of_mem_chosen hspelled hentry with ⟨other, text, -, rfl⟩
    simp [Settings.Fits, Settings.showsTooLong, Settings.Offer.isTooLong]
  rw [Settings.merge_ofTexts hplain hfit (namedOnce_chosen arguments), entryText_chosen hspelled]

/-- Without an entry that is refused, every setting has the text of the last layer that has one
for it. -/
theorem settled_of_fits (hspelled : Spelled arguments)
    (hmistyped : ∀ entry ∈ entries, ¬ Settings.IsMistyped entry)
    (hfit : ∀ entry ∈ entries, Settings.Fits entry) (honce : Settings.NamedOnce entries) :
    settled entries environment arguments =
      .ok (.ofTexts (settledText entries environment arguments)) := by
  -- the defaults are the first layer
  rw [settled, ← Settings.ofTexts_initial, Settings.merge_ofTexts hmistyped hfit honce]
  change Settings.merge (Settings.override _ _) _ = _
  rw [Settings.override_environmentTexts, merge_chosen hspelled]
  rfl

/-- Loading is refused exactly when the entries of the file are. -/
theorem load_eq_refused (hentries : Settings.entriesOf tree path = .ok entries)
    {cause : Settings.WriteFault} :
    Settings.load (some path) environment tree = .error (.refused cause) ↔
      ({} : Settings).merge entries = .error cause := by
  rw [Settings.load_of_entriesOf hentries]
  cases ({} : Settings).merge entries <;> simp [Except.mapError, Except.map]

/-- What becomes of the layers of a conversion. -/
structure Precedes (path : Path) (entries : List (Value × Settings.Offer))
    (environment : Environment) (arguments : Arguments Choice) (tree : FileTree) : Prop where
  /-- Of the settings file, only its entries count. -/
  file : settingsOf arguments environment tree =
    (settled entries environment arguments).mapError .refused
  /-- Every setting has the text of the last layer that has one for it. -/
  settings : (∀ entry ∈ entries, Settings.Fits entry) →
    settingsOf arguments environment tree =
      .ok (.ofTexts (settledText entries environment arguments))
  /-- The order of the entries does not count. -/
  order : (∀ entry ∈ entries, Settings.Fits entry) → ∀ others, others.Perm entries →
    settled others environment arguments = settled entries environment arguments
  /-- The first entry that names no setting is refused, unless an entry before it is or its key is
  too long to be shown. -/
  unknown : ∀ key,
    Settings.load (some path) environment tree = .error (.refused (.unknown key)) ↔
      ∃ front offer back, entries = front ++ (key, offer) :: back ∧
        (∀ earlier ∈ front, Settings.Fits earlier) ∧ Settings.settingOf? key = none ∧
          key.isTooLong = false
  /-- An entry is refused when it holds what is too long to be shown, unless an entry before it
  is. -/
  tooLong : Settings.load (some path) environment tree = .error (.refused .tooLong) ↔
    ∃ front entry back, entries = front ++ entry :: back ∧
      (∀ earlier ∈ front, Settings.Fits earlier) ∧ Settings.showsTooLong entry = true
  /-- The words neither cause nor prevent that the settings are refused. -/
  words : ∀ cause, settingsOf arguments environment tree = .error cause ↔
    Settings.load (some path) environment tree = .error cause

/-- The layers of a conversion are laid one over the other. -/
theorem precedes_of_entriesOf (hfile : settingsFile arguments = some path)
    (hentries : Settings.entriesOf tree path = .ok entries)
    (hmistyped : ∀ entry ∈ entries, ¬ Settings.IsMistyped entry) (hspelled : Spelled arguments) :
    Precedes path entries environment arguments tree := by
  have honce := Settings.namedOnce_of_entriesOf hentries
  constructor
  case file => exact settingsOf_eq_settled hfile hentries
  case settings =>
    intro hfit
    rw [settingsOf_eq_settled hfile hentries, settled_of_fits hspelled hmistyped hfit honce]
    rfl
  case order =>
    intro hfit others hperm
    have hothers : ∀ property : Value × Settings.Offer → Prop,
        (∀ entry ∈ entries, property entry) → ∀ entry ∈ others, property entry :=
      fun property h entry hentry => h entry (hperm.mem_iff.mp hentry)
    rw [settled_of_fits hspelled hmistyped hfit honce,
      settled_of_fits hspelled (hothers _ hmistyped) (hothers _ hfit) (honce.perm hperm)]
    unfold settledText
    rw [honce.entryText_perm hperm]
  case unknown =>
    intro key
    rw [load_eq_refused hentries, Settings.merge_eq_error_iff_first_misfit hmistyped]
    constructor
    · rintro ⟨front, ⟨name, offer⟩, back, rfl, hfront, ⟨-, hcause⟩ | ⟨hname, hshort, hcause⟩⟩
      · cases hcause
      · cases hcause
        exact ⟨front, offer, back, rfl, hfront, hname, hshort⟩
    · rintro ⟨front, offer, back, rfl, hfront, hname, hshort⟩
      exact ⟨front, (key, offer), back, rfl, hfront, Or.inr ⟨hname, hshort, rfl⟩⟩
  case tooLong =>
    rw [load_eq_refused hentries, Settings.merge_eq_error_iff_first_misfit hmistyped]
    simp only [and_true, reduceCtorEq, and_false, or_false]
  case words =>
    intro cause
    -- a switch is refused only when it has no text
    rw [settingsOf_eq_error, hfile]
    refine or_iff_left ?_
    rintro ⟨settings, refused, -, hmerge, -⟩
    rcases merge_chosen_eq_error.mp ⟨refused, hmerge⟩ with ⟨setting, -, hbare⟩
    exact hspelled setting hbare

end Layers

/-- A settings file with an entry for every setting, one of which offers nothing. -/
def layered : FileTree :=
  { entries := ⟨[(["c.yaml".toList], .file (Utf8.encode
      ("log_level: debug\npattern: 5\noutput_dir: ~\noutput_suffix: .a\n".toList ++
        "features_dir: f\n".toList)))]⟩ }

/-- An empty variable of the environment does not count, and an empty text of a switch does. -/
theorem precedes_of_entriesOf_layered :
    let environment : Environment := ⟨[("FEATURE2CURL_PATTERN".toList, []),
      ("FEATURE2CURL_OUTPUT_SUFFIX".toList, ".b".toList),
      ("FEATURE2CURL_FEATURES_DIR".toList, "e".toList)]⟩
    let arguments : Arguments Choice := { switches := [(.settingsFile, some "c.yaml".toList),
      (.setting .featuresDirectory, some "g".toList), (.setting .logLevel, some [])] }
    settingsOf arguments environment layered =
      .ok { featuresDirectory := .ofText "g".toList, pattern := "5".toList,
            outputSuffix := ".b".toList, logLevel := [] } := by
  intro environment arguments
  have hspelled : Spelled arguments := by
    intro setting
    cases setting <;> decide
  have hshape : (Settings.entriesOf layered (.ofText "c.yaml".toList)).toOption.map
      (fun entries => (entries.all fun entry => decide (¬ Settings.IsMistyped entry ∧
          Settings.Fits entry), Setting.all.map (settledText entries environment arguments))) =
        some (true, ["g".toList, "generated".toList, "5".toList, ".b".toList, []]) := by
    decide +kernel
  cases hentries : Settings.entriesOf layered (.ofText "c.yaml".toList) with
  | error fault =>
    rw [hentries] at hshape
    cases hshape
  | ok entries =>
    rw [hentries] at hshape
    have hpair := Option.some.inj hshape
    rw [Prod.mk.injEq, List.all_eq_true] at hpair
    have hmistyped : ∀ entry ∈ entries, ¬ Settings.IsMistyped entry :=
      fun entry hentry => (of_decide_eq_true (hpair.1 entry hentry)).1
    have hfit : ∀ entry ∈ entries, Settings.Fits entry :=
      fun entry hentry => (of_decide_eq_true (hpair.1 entry hentry)).2
    have htexts := hpair.2
    simp only [Setting.all, List.map_cons, List.map_nil, List.cons.injEq, and_true] at htexts
    rcases htexts with ⟨hfeatures, houtput, hpattern, hsuffix, hlevel⟩
    rw [(precedes_of_entriesOf rfl hentries hmistyped hspelled).settings hfit, Settings.ofTexts,
      hfeatures, houtput, hpattern, hsuffix, hlevel]

/-- An entry that offers a number with more digits than are shown. -/
def longNumber : Value × Settings.Offer :=
  (.text "pattern".toList, .other "int".toList (.pure (.int (Nat.pow 10 4300))))

/-- A settings file with a key of its own before those that it merges in. -/
def merging : FileTree :=
  { entries := ⟨[(["c.yaml".toList],
      .file (Utf8.encode "colour: 1\n<<: \x7bshade: 2\x7d\n".toList))]⟩ }

/-- Settings are refused for a number that is too long, although every key names a setting, and a
key that is merged in is refused before those that stand in front of it in the file. -/
theorem not_settled_longNumber :
    (¬ ∀ (entries : List (Value × Settings.Offer)) (environment : Environment)
        (arguments : Arguments Choice), (∀ entry ∈ entries, ¬ Settings.IsMistyped entry) →
      Spelled arguments → (∀ entry ∈ entries, Settings.settingOf? entry.1 ≠ none) →
        settled entries environment arguments =
          .ok (.ofTexts (settledText entries environment arguments))) ∧
      ∃ fault, Settings.load (some (.ofText "c.yaml".toList)) ∅ merging = .error fault ∧
        fault.message = "Unknown setting: shade".toList := by
  constructor
  · intro h
    have hmistyped : ∀ entry ∈ [longNumber], ¬ Settings.IsMistyped entry := by decide
    have hknown : ∀ entry ∈ [longNumber], Settings.settingOf? entry.1 ≠ none := by decide
    have hlong : Settings.showsTooLong longNumber = true := by decide +kernel
    have hmerge : ({} : Settings).merge [longNumber] = .error .tooLong :=
      (Settings.merge_eq_error_iff_first_misfit hmistyped).mpr
        ⟨[], longNumber, [], rfl, nofun, Or.inl ⟨hlong, rfl⟩⟩
    have hsettled := h [longNumber] ∅ {} hmistyped (fun _ => nofun) hknown
    rw [settled, hmerge] at hsettled
    cases hsettled
  · have hmessage : (Settings.load (some (.ofText "c.yaml".toList)) ∅ merging).mapError
        (fun fault => fault.message) = .error "Unknown setting: shade".toList := by
      decide +kernel
    exact except_mapError_eq_error.mp hmessage

end Converter
end RequestScript
