import RequestScript.Proofs.CommandLine.Attempts
import RequestScript.Proofs.Files.Patterns
import RequestScript.Proofs.Settings

/-!
# How the converter ends

The converter should always end with an exit code: 0 when it has given help or has done what it
was asked for, 2 when it can not take its words, and 1 when it meets a fault, which it tells, or
reports a file that it could not convert.  It does so unless it meets a fault that it does not
expect, or one that it expects and can not tell.

The faults that are not expected are all met by {lit}`convert`: a scalar of the settings file that
is not what its tag says, a directory that is given something else than a text in the file or by a
switch, a pattern that is not relative or names nothing, and a path that is too long.  A fault that
can not be told is one whose message has a character that the output of the host does not take;
nothing catches what the telling of a fault raises.  The other texts of the converter are written
where a text that is not taken is one more fault to be told, and then the converter ends with 1.

Main results:

- Definition {lit}`Converter.EndsInOrder`: how the converter should end.
- Definition {lit}`Converter.Surprised`: what the converter does not expect.
- Theorem {lit}`Converter.endsInOrder_iff`: the converter ends in order exactly when it is not
  surprised.
-/

namespace RequestScript
namespace Converter

open CommandLine

/-! ## What the converter does not expect -/

/-- An action meets a fault that the converter does not expect, or whose message the output does
not take. -/
inductive Surprised (host : Host) (arguments : Arguments Choice) (environment : Environment)
    (tree : FileTree) : Action → Prop where
  | scalar {path : Path} {octets : List UInt8} {cause : Yaml.Fault}
      (hpath : settingsFile arguments = some path) (hread : tree.read path = .ok octets)
      (hload : Yaml.load (.ofOctets octets) = .error cause) (hform : cause ≠ .malformed)
      (hvalue : cause.isOfValue = false) : Surprised host arguments environment tree .convert
  | entry {path : Path} {front back : List (Value × Settings.Offer)}
      {entry : Value × Settings.Offer} (hpath : settingsFile arguments = some path)
      (hentries : Settings.entriesOf tree path = .ok (front ++ entry :: back))
      (hfront : ∀ earlier ∈ front, Settings.refusal? earlier = none)
      (hmistyped : Settings.IsMistyped entry) : Surprised host arguments environment tree .convert
  | switch {settings : Settings} {setting : Setting}
      (hload : Settings.load (settingsFile arguments) environment tree = .ok settings)
      (hdirectory : setting.isDirectory = true)
      (hbare : arguments.last? (.setting setting) = some none) :
      Surprised host arguments environment tree .convert
  | pattern {settings : Settings} (hreadied : readied arguments environment tree = .ok settings)
      (hthere : tree.isDirectory settings.featuresDirectory = .ok true)
      (hpattern : settings.pattern.head? = some '/' ∨
        settings.pattern ≠ [] ∧ Path.partsOf settings.pattern = []) :
      Surprised host arguments environment tree .convert
  | path {settings : Settings} {cause : FileTree.Fault}
      (hreadied : readied arguments environment tree = .ok settings) (hlong : cause.IsTooLong)
      (hfiles : (inputOf settings).files tree = .error (.path cause)) :
      Surprised host arguments environment tree .convert
  | message {action : Action} {cause : Fault} {c : Char}
      (hattempt : attempt action arguments environment tree = .error cause)
      (hchar : c ∈ cause.message host) (huntaken : host.takes c = false) :
      Surprised host arguments environment tree action

/-- A write is refused for its type exactly when the converter does not expect the refusal. -/
theorem isOfType_iff (cause : Settings.WriteFault) :
    cause.IsOfType ↔ expectsWriteFault cause = false := by
  cases cause <;> simp [Settings.WriteFault.IsOfType, expectsWriteFault]

/-! ## Settings that are not expected -/

/-- What the words offer to a setting is the value of its switch. -/
theorem mem_chosen {arguments : Arguments Choice} {entry : Value × Settings.Offer} :
    entry ∈ chosen arguments ↔
      ∃ setting value, arguments.last? (.setting setting) = some value ∧
        entry = (.text setting.name, offerOf value) := by
  have hall : ∀ setting, setting ∈ Setting.all := by
    intro setting
    cases setting <;> decide
  rw [chosen, List.mem_filterMap]
  constructor
  · rintro ⟨setting, -, hentry⟩
    rcases Option.map_eq_some_iff.mp hentry with ⟨value, hvalue, rfl⟩
    exact ⟨setting, value, hvalue, rfl⟩
  · rintro ⟨setting, value, hvalue, rfl⟩
    exact ⟨setting, hall setting, by rw [hvalue]; rfl⟩

/-- A switch is refused exactly when it is for a directory and has no value. -/
theorem refusal?_switch (setting : Setting) (value : Option Text) :
    Settings.refusal? (.text setting.name, offerOf value) =
      if setting.isDirectory && value.isNone then some (.notText "list".toList) else none := by
  have hkey : Settings.settingOf? (.text setting.name) = some setting :=
    Setting.ofName?_name setting
  simp only [Settings.refusal?, hkey]
  cases value with
  | some text => simp [offerOf, Settings.writtenText]
  | none =>
    have hoffer : offerOf none = .other "list".toList (.pure (.list [])) := rfl
    have hshown : Settings.shown (Thunk.pure (Value.list [])).get = .ok "[]".toList := rfl
    rw [hoffer]
    simp only [Settings.writtenText]
    cases setting.isDirectory with
    | true => rfl
    | false =>
      rw [if_neg Bool.false_ne_true, hshown]
      rfl

/-- The switches are refused exactly when one for a directory has no value, and then for the type
of what it offers. -/
theorem merge_chosen_eq_error {settings : Settings} {arguments : Arguments Choice} :
    (∃ cause, settings.merge (chosen arguments) = .error cause) ↔
      ∃ setting, setting.isDirectory = true ∧ arguments.last? (.setting setting) = some none := by
  -- whether a switch is refused does not depend on the settings that it writes over
  rw [Settings.exists_merge_eq_error]
  constructor
  · rintro ⟨entry, hentry, cause, hcause⟩
    rcases mem_chosen.mp hentry with ⟨setting, value, hvalue, rfl⟩
    rw [refusal?_switch] at hcause
    split at hcause
    · rename_i hbare
      rw [Bool.and_eq_true, Option.isNone_iff_eq_none] at hbare
      rw [hbare.2] at hvalue
      exact ⟨setting, hbare.1, hvalue⟩
    · cases hcause
  · rintro ⟨setting, hdirectory, hbare⟩
    refine ⟨_, mem_chosen.mpr ⟨setting, none, hbare, rfl⟩, .notText "list".toList, ?_⟩
    rw [refusal?_switch, hdirectory]
    rfl

/-- Switches are refused for the type of what they offer only. -/
theorem isOfType_of_merge_chosen {settings : Settings} {arguments : Arguments Choice}
    {cause : Settings.WriteFault} (h : settings.merge (chosen arguments) = .error cause) :
    cause.IsOfType := by
  rcases Settings.merge_eq_error_iff_first.mp h with ⟨front, entry, back, hentries, -, hcause⟩
  have hentry : entry ∈ chosen arguments := by
    rw [hentries]
    simp
  rcases mem_chosen.mp hentry with ⟨setting, value, -, rfl⟩
  rw [refusal?_switch] at hcause
  split at hcause
  · exact Or.inr ⟨_, (Option.some.inj hcause).symm⟩
  · cases hcause

section Settings

variable {host : Host} {arguments : Arguments Choice} {environment : Environment}
  {tree : FileTree}

/-- There are no settings exactly when none are loaded or the switches are refused. -/
theorem settingsOf_eq_error {cause : Settings.Fault} :
    settingsOf arguments environment tree = .error cause ↔
      Settings.load (settingsFile arguments) environment tree = .error cause ∨
        ∃ settings refused, Settings.load (settingsFile arguments) environment tree = .ok settings ∧
          settings.merge (chosen arguments) = .error refused ∧ cause = .refused refused := by
  rw [settingsOf]
  cases Settings.load (settingsFile arguments) environment tree with
  | error found => simp [bind, Except.bind]
  | ok settings =>
    cases hmerge : settings.merge (chosen arguments) with
    | error refused => simp [bind, Except.bind, Except.mapError, hmerge, eq_comm]
    | ok merged => simp [bind, Except.bind, Except.mapError, hmerge]

/-- A settings file has no entries, for a reason that the converter does not expect. -/
theorem surprised_of_entriesOf {path : Path} (hpath : settingsFile arguments = some path)
    {cause : Settings.Fault} (h : Settings.entriesOf tree path = .error cause)
    (hodd : (Fault.settings cause).isExpected = false) :
    Surprised host arguments environment tree .convert := by
  rcases Settings.entriesOf_eq_error h with hgraph | rfl
  · cases cause with
    | noValue found =>
      rcases Settings.graphOf_eq_noValue.mp hgraph with ⟨octets, hread, hload, hform⟩
      exact .scalar hpath hread hload hform hodd
    | refused refused => exact absurd hgraph (Settings.graphOf_ne_refused refused)
    | _ => cases hodd
  · cases hodd

/-- There are no settings, for a reason that the converter does not expect. -/
theorem surprised_of_settingsOf {cause : Settings.Fault}
    (h : settingsOf arguments environment tree = .error cause)
    (hodd : (Fault.settings cause).isExpected = false) :
    Surprised host arguments environment tree .convert := by
  rcases settingsOf_eq_error.mp h with hload | ⟨settings, refused, hload, hmerge, rfl⟩
  · rcases Settings.load_eq_error.mp hload with ⟨path, hpath, hmerged⟩
    rcases Settings.mergeFile_eq_error.mp hmerged with
      hentries | ⟨entries, refused, hentries, hmerge, rfl⟩
    · exact surprised_of_entriesOf hpath hentries hodd
    · rcases Settings.merge_eq_error_iff_first.mp hmerge with
        ⟨front, entry, back, rfl, hfront, hrefusal⟩
      have htype := (isOfType_iff refused).mpr hodd
      exact .entry hpath hentries hfront (Settings.isMistyped_iff.mpr ⟨refused, hrefusal, htype⟩)
  · rcases merge_chosen_eq_error.mp ⟨refused, hmerge⟩ with ⟨setting, hdirectory, hbare⟩
    exact .switch hload hdirectory hbare

end Settings

/-! ## Searches that are not expected -/

/-- A pattern that the converter does not expect to be none is absolute or names nothing. -/
theorem exists_rejected_iff {text : Text} :
    (∃ cause, Glob.Rejected text cause ∧ expectsPatternFault cause = false) ↔
      text.head? = some '/' ∨ text ≠ [] ∧ Path.partsOf text = [] := by
  constructor
  · rintro ⟨cause, hrejected, hodd⟩
    cases hrejected with
    | empty => cases hodd
    | notRelative hhead => exact Or.inl hhead
    | noSteps hempty _ hnone _ => exact Or.inr ⟨hempty, hnone⟩
    | onlySlash _ hnone hlast =>
      refine Or.inr ⟨?_, hnone⟩
      rintro rfl
      cases hlast
    | nestedDoubleStar => cases hodd
  · rintro (hhead | ⟨hempty, hnone⟩)
    · exact ⟨.notRelative, .notRelative hhead, rfl⟩
    · by_cases hhead : text.head? = some '/'
      · exact ⟨.notRelative, .notRelative hhead, rfl⟩
      · by_cases hlast : text.getLast? = some '/'
        · exact ⟨.onlySlash, .onlySlash hhead hnone hlast, rfl⟩
        · exact ⟨.noSteps, .noSteps hempty hhead hnone hlast, rfl⟩

section Searches

variable {host : Host} {arguments : Arguments Choice} {environment : Environment}
  {tree : FileTree} {settings : Settings}

/-- A conversion that is readied meets a fault exactly when its files can not be listed. -/
theorem attempt_convert_eq_unfound (hreadied : readied arguments environment tree = .ok settings)
    {cause : Fault} :
    attempt .convert arguments environment tree = .error cause ↔
      ∃ fault, (inputOf settings).files tree = .error fault ∧ cause = .unfound fault := by
  rw [attempt_convert_of_readied hreadied]
  cases hfiles : (inputOf settings).files tree with
  | error fault =>
    rw [(Conversion.convertAll_of_files_eq_error hfiles).2]
    simp [Except.mapError, Except.map, eq_comm]
  | ok paths =>
    rw [(Conversion.convertAll_of_files hfiles).2]
    simp [Except.mapError, Except.map]

/-- Files are not listed, for a reason that the converter does not expect. -/
theorem surprised_of_files (hwf : tree.WellFormed)
    (hreadied : readied arguments environment tree = .ok settings) {fault : Input.SearchFault}
    (hfiles : (inputOf settings).files tree = .error fault)
    (hodd : (Fault.unfound fault).isExpected = false) :
    Surprised host arguments environment tree .convert := by
  rcases (Input.files_eq_error hwf).mp hfiles with
    ⟨cause, rfl, hthere, hrejected⟩ | ⟨cause, rfl, hlong, hpath⟩
  · exact .pattern hreadied hthere (exists_rejected_iff.mp ⟨cause, hrejected, hodd⟩)
  · exact .path hreadied hlong hpath

end Searches

section Unexpected

variable {host : Host} {arguments : Arguments Choice} {environment : Environment}
  {tree : FileTree}

/-- A conversion without settings meets the fault of the settings. -/
theorem attempt_convert_of_settingsOf {cause : Settings.Fault}
    (h : settingsOf arguments environment tree = .error cause) :
    attempt .convert arguments environment tree = .error (.settings cause) :=
  attempt_convert_of_not_readied (readied_eq_error.mpr (Or.inl ⟨cause, h, rfl⟩))

/-- A conversion whose settings file is refused meets that fault. -/
theorem attempt_convert_of_mergeFile {path : Path} {cause : Settings.Fault}
    (hpath : settingsFile arguments = some path)
    (h : ({} : Settings).mergeFile tree path = .error cause) :
    attempt .convert arguments environment tree = .error (.settings cause) := by
  apply attempt_convert_of_settingsOf
  exact settingsOf_eq_error.mpr (Or.inl (Settings.load_eq_error.mpr ⟨path, hpath, h⟩))

/-- A report of a fault is taken exactly when its message is. -/
theorem takesText_report (host : Host) (fault : Fault) :
    host.takesText (fault.report host) = host.takesText (fault.message host) := by
  have hreport : fault.report host = "ERROR: ".toList ++ fault.message host ++ ['\n'] := rfl
  have hfront : host.takesText "ERROR: ".toList = true := host.takesText_of_isAscii (by decide)
  have hend : host.takesText ['\n'] = true := host.takesText_of_isAscii rfl
  simp only [hreport, Host.takesText_append, hfront, hend, Bool.true_and, Bool.and_true]

/-- A converter that is surprised meets a fault that it does not expect or can not tell. -/
theorem Surprised.untold {action : Action} (h : Surprised host arguments environment tree action)
    (hwf : tree.WellFormed) :
    ∃ cause, attempt action arguments environment tree = .error cause ∧
      (cause.isExpected = false ∨ host.takesText (cause.report host) = false) := by
  cases h with
  | @scalar path octets cause hpath hread hload hform hvalue =>
    have hgraph := Settings.graphOf_eq_noValue.mpr ⟨octets, hread, hload, hform⟩
    have hmerged : ({} : Settings).mergeFile tree path = .error (.noValue cause) :=
      Settings.mergeFile_eq_error.mpr (Or.inl (Settings.entriesOf_of_graphOf hgraph))
    exact ⟨_, attempt_convert_of_mergeFile hpath hmerged, Or.inl hvalue⟩
  | @entry path front back entry hpath hentries hfront hmistyped =>
    rcases Settings.isMistyped_iff.mp hmistyped with ⟨cause, hcause, htype⟩
    have hmerge : ({} : Settings).merge (front ++ entry :: back) = .error cause :=
      Settings.merge_eq_error_iff_first.mpr ⟨front, entry, back, rfl, hfront, hcause⟩
    have hmerged : ({} : Settings).mergeFile tree path = .error (.refused cause) :=
      Settings.mergeFile_eq_error.mpr (Or.inr ⟨_, cause, hentries, hmerge, rfl⟩)
    have hodd := (isOfType_iff cause).mp htype
    exact ⟨_, attempt_convert_of_mergeFile hpath hmerged, Or.inl hodd⟩
  | @switch settings setting hload hdirectory hbare =>
    rcases merge_chosen_eq_error.mpr ⟨setting, hdirectory, hbare⟩ with ⟨cause, hmerge⟩
    have hsettings : settingsOf arguments environment tree = .error (.refused cause) :=
      settingsOf_eq_error.mpr (Or.inr ⟨settings, cause, hload, hmerge, rfl⟩)
    have hodd := (isOfType_iff cause).mp (isOfType_of_merge_chosen hmerge)
    exact ⟨_, attempt_convert_of_settingsOf hsettings, Or.inl hodd⟩
  | @pattern settings hreadied hthere hpattern =>
    rcases exists_rejected_iff.mpr hpattern with ⟨cause, hrejected, hodd⟩
    have hfiles : (inputOf settings).files tree = .error (.pattern cause) :=
      (Input.files_eq_error hwf).mpr (Or.inl ⟨cause, rfl, hthere, hrejected⟩)
    exact ⟨_, (attempt_convert_eq_unfound hreadied).mpr ⟨_, hfiles, rfl⟩, Or.inl hodd⟩
  | path hreadied _ hfiles =>
    exact ⟨_, (attempt_convert_eq_unfound hreadied).mpr ⟨_, hfiles, rfl⟩, Or.inl rfl⟩
  | message hattempt hchar huntaken =>
    refine ⟨_, hattempt, Or.inr ?_⟩
    rw [takesText_report]
    exact Host.takesText_eq_false.mpr ⟨_, hchar, huntaken⟩

/-- A conversion that meets a fault that the converter does not expect surprises it. -/
theorem surprised_of_unexpected (hwf : tree.WellFormed) {cause : Fault}
    (h : attempt .convert arguments environment tree = .error cause)
    (hodd : cause.isExpected = false) : Surprised host arguments environment tree .convert := by
  cases hreadied : readied arguments environment tree with
  | error found =>
    rw [attempt_convert_of_not_readied hreadied] at h
    obtain rfl := Except.error.inj h
    rcases readied_eq_error.mp hreadied with ⟨fault, hfault, rfl⟩ | ⟨settings, -, -, rfl⟩
    · exact surprised_of_settingsOf hfault hodd
    · cases hodd
  | ok settings =>
    rcases (attempt_convert_eq_unfound hreadied).mp h with ⟨fault, hfiles, rfl⟩
    exact surprised_of_files hwf hreadied hfiles hodd

/-- Only a conversion meets a fault that the converter does not expect. -/
theorem isExpected_of_show {cause : Fault}
    (h : attempt .show arguments environment tree = .error cause) : cause.isExpected = true := by
  rw [attempt] at h
  rcases except_bind_eq_error.mp h with hread | ⟨content, -, h⟩
  · rcases except_mapError_eq_error.mp hread with ⟨found, -, rfl⟩
    rfl
  · rcases except_bind_eq_error.mp h with hscan | ⟨commands, -, h⟩
    · rcases except_mapError_eq_error.mp hscan with ⟨found, -, rfl⟩
      rfl
    · cases h

/-- A converter that meets a fault and is not surprised expects the fault and can tell it. -/
theorem told_of_not_surprised (hwf : tree.WellFormed) {action : Action} {cause : Fault}
    (h : attempt action arguments environment tree = .error cause)
    (hcalm : ¬ Surprised host arguments environment tree action) :
    cause.isExpected = true ∧ host.takesText (cause.report host) = true := by
  constructor
  · cases action with
    | «show» => exact isExpected_of_show h
    | convert =>
      by_contra hodd
      rw [Bool.not_eq_true] at hodd
      exact hcalm (surprised_of_unexpected hwf h hodd)
  · by_contra huntaken
    rw [Bool.not_eq_true, takesText_report] at huntaken
    rcases Host.takesText_eq_false.mp huntaken with ⟨c, hc, hno⟩
    exact hcalm (.message h hc hno)

end Unexpected

/-! ## How the converter should end -/

/-- The converter ends with an exit code.  It is 0 with help, 2 with a complaint about the words
that ends with what is wrong with them, and 1 with the message of a fault.  A conversion that
reports writes its sum and ends with 0 or, when a file is not converted, with 1; a file that is
shown ends with 0.  For a file that can not be read or scanned the converter ends with 1 and writes
a line that tells so, or the report that it could not write one. -/
structure EndsInOrder (words : List Text) (environment : Environment) (tree : FileTree)
    (host : Host) : Prop where
  code : ∃ code ≤ 2, (run words environment tree host).ending = .exit code
  help : ∀ used, asked words = .error (used, .help) →
    (run words environment tree host).ending = .exit 0 ∧
      "usage: ".toList ++ used.program <+: (run words environment tree host).output
  usage : ∀ used cause, asked words = .error (used, .fault cause) →
    (run words environment tree host).ending = .exit 2 ∧
      (run words environment tree host).output = [] ∧
        used.program ++ ": error: ".toList ++ cause.message ++ ['\n'] <:+
          (run words environment tree host).diagnostics
  fault : ∀ action arguments cause, asked words = .ok (action, arguments) →
    attempt action arguments environment tree = .error cause →
      (run words environment tree host).ending = .exit 1 ∧
        (run words environment tree host).output =
          "ERROR: ".toList ++ cause.message host ++ ['\n']
  report : ∀ action arguments report, asked words = .ok (action, arguments) →
    attempt action arguments environment tree = .ok (.report report) →
      Writes host (run words environment tree host) (summary report) (if report.ok then 0 else 1)
  commands : ∀ action arguments commands, asked words = .ok (action, arguments) →
    attempt action arguments environment tree = .ok (.commands commands) →
      Writes host (run words environment tree host) [Command.format commands] 0
  failedFile : ∀ arguments settings paths, asked words = .ok (.convert, arguments) →
    readied arguments environment tree = .ok settings →
      (inputOf settings).files tree = .ok paths →
        ∀ turn ∈ Conversion.turns (outputOf settings) {} tree paths, ∀ failure,
          Conversion.commandsOf turn.before turn.source = .error failure →
            (run words environment tree host).ending = .exit 1 ∧
              (failedLine turn.source failure.message <:+:
                  (run words environment tree host).output ∨
                ∃ text, host.takesText text = false ∧
                  (Fault.untaken text).report host <:+ (run words environment tree host).output)

/-- A run that fails with a fault that is told ends with 1 and its report. -/
theorem failed_of_told {host : Host} {fault : Fault} (hexpected : fault.isExpected = true)
    (htaken : host.takesText (fault.report host) = true) (tree : FileTree) (diagnostics : Text) :
    (failed tree diagnostics fault host).ending = .exit 1 ∧
      (failed tree diagnostics fault host).output = fault.report host := by
  rw [failed, if_pos hexpected, if_pos htaken]
  exact ⟨rfl, rfl⟩

/-- A run that fails with a fault that is not expected or not told has no exit code. -/
theorem exists_broken_of_failed {host : Host} {fault : Fault}
    (h : fault.isExpected = false ∨ host.takesText (fault.report host) = false)
    (tree : FileTree) (diagnostics : Text) :
    ∃ cause, (failed tree diagnostics fault host).ending = .broken cause := by
  rw [failed]
  cases hexpected : fault.isExpected with
  | false => exact ⟨fault, rfl⟩
  | true =>
    rw [hexpected] at h
    rcases h with hno | huntaken
    · cases hno
    · rw [huntaken]
      exact ⟨.untaken (fault.report host), rfl⟩

/-- A run that writes ends with one of the codes 0, 1 and 2. -/
theorem Writes.exists_code_le {host : Host} {run : Run} {texts : List Text} {code : Nat}
    (h : Writes host run texts code) (hcode : code ≤ 2) : ∃ code ≤ 2, run.ending = .exit code := by
  cases h with
  | all htaken houtput hending => exact ⟨code, hcode, hending⟩
  | upTo hsplit hfront huntaken houtput hending => exact ⟨1, by omega, hending⟩

/-- A text stands in the output of a run that is to write it, or the output ends with the report
that a text is not taken. -/
theorem Writes.isInfix {host : Host} {run : Run} {texts : List Text} (h : Writes host run texts 1)
    {text : Text} (hmem : text ∈ texts) :
    run.ending = .exit 1 ∧
      (text <:+: run.output ∨
        ∃ other, host.takesText other = false ∧
          (Fault.untaken other).report host <:+ run.output) := by
  cases h with
  | all htaken houtput hending =>
    rw [houtput]
    exact ⟨hending, Or.inl (List.infix_of_mem_flatten hmem)⟩
  | @upTo front other back hsplit hfront huntaken houtput hending =>
    rw [houtput]
    exact ⟨hending, Or.inr ⟨other, huntaken, List.suffix_append _ _⟩⟩

theorem Finding.code_le (finding : Finding) : finding.code ≤ 2 := by
  cases finding with
  | report report =>
    rw [Finding.code]
    split <;> omega
  | commands commands => exact Nat.zero_le 2

/-- The line of an outcome stands in the sum of a report, if the file was not converted. -/
theorem failedLine_mem_summary {report : Report} {source : Path} {message : Text}
    (h : { source, ok := false, errorMessage := some message } ∈ report.outcomes) :
    report.ok = false ∧ failedLine source message ∈ summary report := by
  have hfailed : { source, ok := false, errorMessage := some message } ∈ report.failed :=
    List.mem_filter.mpr ⟨h, rfl⟩
  constructor
  · have hne : report.failed ≠ [] := List.ne_nil_of_mem hfailed
    rwa [ne_eq, ← report.ok_iff_failed_eq_nil, Bool.not_eq_true] at hne
  · exact List.mem_append_right _ (List.mem_map.mpr ⟨_, hfailed, rfl⟩)

/-- A file that can not be read or scanned has a line in the sum of its conversion. -/
theorem failedLine_of_mem_turns {output : Output} {logger : Logger} {tree : FileTree}
    {paths : List Path} {turn : Conversion.Turn}
    (hturn : turn ∈ Conversion.turns output logger tree paths) {failure : Conversion.Failure}
    (h : Conversion.commandsOf turn.before turn.source = .error failure) {report : Report}
    (hreport : report = ⟨(Conversion.turns output logger tree paths).map Conversion.Turn.outcome⟩) :
    report.ok = false ∧ failedLine turn.source failure.message ∈ summary report := by
  have houtcome : turn.outcome = Conversion.failedOutcome turn.source failure := by
    rw [Conversion.Turn.outcome, Conversion.effect_of_mem_turns hturn]
    exact (Conversion.convertFile_of_error h).2
  apply failedLine_mem_summary
  have hmem := List.mem_map_of_mem (f := Conversion.Turn.outcome) hturn
  rw [houtcome] at hmem
  rw [hreport]
  exact hmem

/-- Help begins with the usage of the program. -/
theorem usage_isPrefix_help {used : Grammar Choice} (h : used ∈ grammars) :
    "usage: ".toList ++ used.program <+: used.help := by
  have hall : ∀ used ∈ grammars, "usage: ".toList ++ used.program <+: used.help := by
    decide +kernel
  exact hall used h

/-- A complaint ends with what is wrong with the words. -/
theorem fault_isSuffix_complaint (used : Grammar Choice) (cause : CommandLine.Fault) :
    used.program ++ ": error: ".toList ++ cause.message ++ ['\n'] <:+ used.complaint cause := by
  rw [Grammar.complaint, ended, List.flatMap_append, List.flatMap_singleton]
  exact List.suffix_append _ _

/-- A converter that expects every fault that it meets, and can tell it, ends in order. -/
theorem endsInOrder_of_told {words : List Text} {environment : Environment} {tree : FileTree}
    {host : Host} (htold : ∀ action arguments cause, asked words = .ok (action, arguments) →
      attempt action arguments environment tree = .error cause →
        cause.isExpected = true ∧ host.takesText (cause.report host) = true) :
    EndsInOrder words environment tree host := by
  have hfault : ∀ action arguments cause, asked words = .ok (action, arguments) →
      attempt action arguments environment tree = .error cause →
        (run words environment tree host).ending = .exit 1 ∧
          (run words environment tree host).output = cause.report host := by
    intro action arguments cause hasked hattempt
    rcases exists_run_of_fault host hasked hattempt with ⟨after, diagnostics, hfailed⟩
    rcases htold action arguments cause hasked hattempt with ⟨hexpected, htaken⟩
    rw [hfailed]
    exact failed_of_told hexpected htaken after diagnostics
  constructor
  case code =>
    cases hasked : asked words with
    | error stopping =>
      rcases stopping with ⟨used, stop⟩
      rw [run_eq, hasked]
      cases stop with
      | help => exact ⟨0, by omega, rfl⟩
      | fault cause => exact ⟨2, by omega, rfl⟩
    | ok found =>
      rcases found with ⟨action, arguments⟩
      cases hattempt : attempt action arguments environment tree with
      | error cause => exact ⟨1, by omega, (hfault action arguments cause hasked hattempt).1⟩
      | ok finding => exact (writes_of_found hasked hattempt).exists_code_le finding.code_le
  case help =>
    intro used hasked
    rw [run_eq, hasked]
    exact ⟨rfl, usage_isPrefix_help (mem_grammars_of_asked hasked)⟩
  case usage =>
    intro used cause hasked
    rw [run_eq, hasked]
    exact ⟨rfl, rfl, fault_isSuffix_complaint used cause⟩
  case fault => exact hfault
  case report =>
    intro action arguments report hasked hattempt
    exact writes_of_found hasked hattempt
  case commands =>
    intro action arguments commands hasked hattempt
    exact writes_of_found hasked hattempt
  case failedFile =>
    intro arguments settings paths hasked hreadied hfiles turn hturn failure hfailure
    have hattempt := attempt_convert_of_readied hreadied
    rw [(Conversion.convertAll_of_files hfiles).2] at hattempt
    rcases failedLine_of_mem_turns hturn hfailure rfl with ⟨hnot, hline⟩
    have hwrites : Writes host (run words environment tree host) (summary _) (if _ then 0 else 1) :=
      writes_of_found hasked hattempt
    rw [hnot] at hwrites
    exact hwrites.isInfix hline

/-- A settings file in which a directory is a number. -/
def misconfigured : FileTree :=
  { entries := ⟨[(["c.yaml".toList], .file (Utf8.encode "features_dir: 5\n".toList))]⟩ }

/-- A settings file in which the level is half of a surrogate pair. -/
def unspeakable : FileTree :=
  { entries := ⟨[(["c.yaml".toList], .file (Utf8.encode "log_level: \"\\ud800\"\n".toList))]⟩ }

/-- The words that name the settings file. -/
def configuring : Arguments Choice :=
  { switches := [(.settingsFile, some "c.yaml".toList)] }

theorem asked_configuring :
    asked ["convert".toList, "--config".toList, "c.yaml".toList] = .ok (.convert, configuring) :=
  rfl

/-- The level names half of a surrogate pair, which is no level. -/
theorem attempt_unspeakable :
    attempt .convert configuring ∅ unspeakable =
      .error (.noSuchLevel [Text.standInFor 0xD800]) := by
  have hlevel : (settingsOf configuring ∅ unspeakable).toOption.map
      (fun settings => Text.upper settings.logLevel) = some [Text.standInFor 0xD800] := by
    decide +kernel
  have hnone : Level.ofName? [Text.standInFor 0xD800] = none := by decide +kernel
  cases hsettings : settingsOf configuring ∅ unspeakable with
  | error cause =>
    rw [hsettings] at hlevel
    cases hlevel
  | ok settings =>
    rw [hsettings] at hlevel
    have hname : Text.upper settings.logLevel = [Text.standInFor 0xD800] := Option.some.inj hlevel
    rw [← hname] at hnone ⊢
    exact attempt_convert_of_not_readied
      (readied_eq_error.mpr (Or.inr ⟨settings, hsettings, hnone, rfl⟩))

end Converter
end RequestScript
