import RequestScript.Proofs.Files.Selection
import RequestScript.Settings.Source

/-!
# Why settings are refused

Whether a write to the settings is refused can be told from the write alone: from its key and
from what it offers, and not from the settings that are written over.  A list of writes is
refused for the first of its writes that is.

Main results:

- Definition {lit}`Settings.refusal?`: why a write is refused.
- Theorem {lit}`Settings.merge_eq_error`: why a list of writes is refused.
- Definition {lit}`Settings.IsMistyped`: a write that offers to a directory what is no text.
-/

namespace RequestScript
namespace Settings

/-- Why a write is refused, if it is. -/
def refusal? (entry : Value × Offer) : Option WriteFault :=
  match settingOf? entry.1 with
  | none => some (refusalOf entry.1)
  | some setting =>
    match writtenText setting entry.2 with
    | .error cause => some cause
    | .ok _ => none

/-- A write is refused exactly for the reason that its entry has. -/
theorem write_eq_error {settings : Settings} {key : Value} {offer : Offer} {cause : WriteFault} :
    settings.write key offer = .error cause ↔ refusal? (key, offer) = some cause := by
  rw [write, refusal?]
  cases settingOf? key with
  | none => simp
  | some setting =>
    dsimp only
    cases hwritten : writtenText setting offer with
    | error found => simp [bind, Except.bind]
    | ok written => cases written <;> simp [bind, Except.bind, pure, Except.pure]

/-- A list of writes is refused for the first write that is. -/
theorem merge_eq_error {settings : Settings} {entries : List (Value × Offer)}
    {cause : WriteFault} :
    settings.merge entries = .error cause ↔ entries.findSome? refusal? = some cause := by
  induction entries generalizing settings with
  | nil => simp
  | cons entry rest ih =>
    rcases entry with ⟨key, offer⟩
    rw [merge_cons, List.findSome?_cons]
    cases hwrite : settings.write key offer with
    | error found =>
      rw [write_eq_error.mp hwrite]
      simp [bind, Except.bind]
    | ok after =>
      have hnone : refusal? (key, offer) = none := by
        cases hrefusal : refusal? (key, offer) with
        | none => rfl
        | some found =>
          rw [write_eq_error.mpr hrefusal] at hwrite
          cases hwrite
      rw [hnone]
      exact ih

/-- Entries are refused for the first of them that has a reason. -/
theorem merge_eq_error_iff_first {settings : Settings} {entries : List (Value × Offer)}
    {cause : WriteFault} :
    settings.merge entries = .error cause ↔
      ∃ front entry back, entries = front ++ entry :: back ∧
        (∀ earlier ∈ front, refusal? earlier = none) ∧ refusal? entry = some cause := by
  rw [merge_eq_error, List.findSome?_eq_some_iff]
  constructor
  · rintro ⟨front, entry, back, rfl, hcause, hfront⟩
    exact ⟨front, entry, back, rfl, hfront, hcause⟩
  · rintro ⟨front, entry, back, rfl, hfront, hcause⟩
    exact ⟨front, entry, back, rfl, hcause, hfront⟩

/-- Whether an offer is a text or nothing, as a directory takes it. -/
def Offer.isPlain : Offer → Bool
  | .nothing => true
  | .text _ => true
  | _ => false

/-- A write offers to a directory what is no text. -/
def IsMistyped (entry : Value × Offer) : Prop :=
  ∃ setting, settingOf? entry.1 = some setting ∧ setting.isDirectory = true ∧
    entry.2.isPlain = false

/-- A refusal of what is no text, and for no other reason. -/
def WriteFault.IsOfType (cause : WriteFault) : Prop :=
  cause = .octets ∨ ∃ typeName, cause = .notText typeName

/-- A key that names no setting is not refused for a type. -/
theorem not_isOfType_refusalOf (key : Value) : ¬ (refusalOf key).IsOfType := by
  rw [refusalOf]
  split <;> simp [WriteFault.IsOfType]

/-- What a setting does not take is no text and meant for a directory, or a number that is too
long. -/
theorem isOfType_of_writtenText {setting : Setting} {offer : Offer} {cause : WriteFault}
    (h : writtenText setting offer = .error cause) :
    cause.IsOfType ↔ setting.isDirectory = true := by
  cases offer with
  | nothing => cases h
  | text text => cases h
  | octets octets =>
    rw [writtenText] at h
    split at h
    · rename_i hdirectory
      cases h
      exact iff_of_true (Or.inl rfl) hdirectory
    · cases h
  | other typeName value =>
    rw [writtenText] at h
    split at h
    · rename_i hdirectory
      cases h
      exact iff_of_true (Or.inr ⟨typeName, rfl⟩) hdirectory
    · rename_i hdirectory
      rw [except_map_eq_error, shown] at h
      split at h
      · cases h
        exact iff_of_false (by simp [WriteFault.IsOfType]) hdirectory
      · cases h

/-- A write is refused for its type exactly when it is mistyped. -/
theorem isMistyped_iff {entry : Value × Offer} :
    IsMistyped entry ↔ ∃ cause, refusal? entry = some cause ∧ cause.IsOfType := by
  rcases entry with ⟨key, offer⟩
  constructor
  · rintro ⟨setting, hkey, hdirectory, hplain⟩
    have hwritten : ∃ cause, writtenText setting offer = .error cause := by
      cases offer with
      | nothing => cases hplain
      | text text => cases hplain
      | octets octets => exact ⟨.octets, if_pos hdirectory⟩
      | other typeName value => exact ⟨.notText typeName, if_pos hdirectory⟩
    rcases hwritten with ⟨cause, hwritten⟩
    refine ⟨cause, ?_, (isOfType_of_writtenText hwritten).mpr hdirectory⟩
    simp only [refusal?, hkey, hwritten]
  · rintro ⟨cause, hrefusal, htype⟩
    rw [refusal?] at hrefusal
    split at hrefusal
    · rw [← Option.some.inj hrefusal] at htype
      exact absurd htype (not_isOfType_refusalOf key)
    · rename_i setting hkey
      split at hrefusal
      · rename_i found hwritten
        rw [← Option.some.inj hrefusal] at htype
        refine ⟨setting, hkey, (isOfType_of_writtenText hwritten).mp htype, ?_⟩
        cases offer with
        | nothing => cases hwritten
        | text text => cases hwritten
        | _ => rfl
      · cases hrefusal

/-- A list of writes is refused exactly when one of them is. -/
theorem exists_merge_eq_error {settings : Settings} {entries : List (Value × Offer)} :
    (∃ cause, settings.merge entries = .error cause) ↔
      ∃ entry ∈ entries, ∃ cause, refusal? entry = some cause := by
  simp only [merge_eq_error, ← Option.isSome_iff_exists, List.findSome?_isSome_iff]

/-! ## Settings files -/

/-- A settings file has no value exactly when its octets are read and loading them fails for another
reason than their form. -/
theorem graphOf_eq_noValue {tree : FileTree} {path : Path} {cause : Yaml.Fault} :
    graphOf tree path = .error (.noValue cause) ↔
      ∃ octets, tree.read path = .ok octets ∧ Yaml.load (.ofOctets octets) = .error cause ∧
        cause ≠ .malformed := by
  constructor
  · intro h
    unfold graphOf at h
    split at h
    · split at h <;> cases h
    · rename_i octets hread
      split at h
      · cases h
      · rename_i found hform hload
        cases h
        exact ⟨octets, hread, hload, hform⟩
      · cases h
  · rintro ⟨octets, hread, hload, hform⟩
    rw [graphOf, hread]
    dsimp only
    rw [hload]
    cases cause with
    | malformed => exact absurd rfl hform
    | _ => rfl

/-- Before its entries are looked at, a settings file is not refused. -/
theorem graphOf_ne_refused {tree : FileTree} {path : Path} (cause : WriteFault) :
    graphOf tree path ≠ .error (.refused cause) := by
  intro h
  unfold graphOf at h
  split at h
  · split at h <;> cases h
  · split at h <;> cases h

/-- A settings file has no entries when its text has no value, or when the value is no
mapping. -/
theorem entriesOf_eq_error {tree : FileTree} {path : Path} {fault : Fault}
    (h : entriesOf tree path = .error fault) :
    graphOf tree path = .error fault ∨ fault = .notMapping path := by
  change (graphOf tree path).bind _ = .error fault at h
  rcases except_bind_eq_error.mp h with hgraph | ⟨graph, -, hroot⟩
  · exact Or.inl hgraph
  · right
    split at hroot
    · cases hroot
    · cases hroot
      rfl
    · split at hroot
      · cases hroot
      · cases hroot
        rfl

/-- A file that stands for nothing has no entries, for the same reason. -/
theorem entriesOf_of_graphOf {tree : FileTree} {path : Path} {fault : Fault}
    (h : graphOf tree path = .error fault) : entriesOf tree path = .error fault := by
  rw [entriesOf, h]
  rfl

/-- A settings file is not merged when it has no entries, or when one of them is refused. -/
theorem mergeFile_eq_error {settings : Settings} {tree : FileTree} {path : Path} {fault : Fault} :
    settings.mergeFile tree path = .error fault ↔
      entriesOf tree path = .error fault ∨
        ∃ entries cause, entriesOf tree path = .ok entries ∧
          settings.merge entries = .error cause ∧ fault = .refused cause := by
  rw [mergeFile]
  cases hentries : entriesOf tree path with
  | error found => simp [bind, Except.bind]
  | ok entries =>
    cases hmerge : settings.merge entries with
    | error cause => simp [hmerge, bind, Except.bind, eq_comm]
    | ok after => simp [hmerge, bind, Except.bind, pure, Except.pure]

/-- Settings are not loaded exactly when there is a settings file that is not merged. -/
theorem load_eq_error {file : Option Path} {environment : Environment} {tree : FileTree}
    {fault : Fault} :
    load file environment tree = .error fault ↔
      ∃ path, file = some path ∧ ({} : Settings).mergeFile tree path = .error fault := by
  cases file with
  | none => simp [load, bind, Except.bind, pure, Except.pure]
  | some path =>
    rw [load]
    generalize ({} : Settings) = settings
    cases hmerged : settings.mergeFile tree path with
    | error found => simp [hmerged, bind, Except.bind]
    | ok merged => simp [hmerged, bind, Except.bind, pure, Except.pure]

end Settings
end RequestScript
