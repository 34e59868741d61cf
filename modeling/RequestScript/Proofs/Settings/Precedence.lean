import RequestScript.Proofs.Settings
import RequestScript.Proofs.Yaml.Keys

/-!
# Which write to a setting counts

Settings are kept as texts, one for each of them, and directories as the paths of their texts.  A
list of writes changes the texts of the settings that it writes something to, and no others.  So
several lists that are written one after another form layers: every setting has the text of the
last layer that writes to it.

A settings file is one of these layers.  It has at most one entry for each setting, because no
loaded mapping has two equal keys, so the order of its entries does not count.  Only the first
entry that is refused does.

Main results:

- Definition {lit}`Settings.ofTexts`: the settings with given texts.
- Theorem {lit}`Settings.override_ofTexts`: writes change the texts that they are written to.
- Theorem {lit}`Settings.merge_eq_override`: entries that are not refused are writes of texts.
- Theorem {lit}`Settings.refusal?_of_not_isMistyped`: why an entry is refused.
- Theorem {lit}`Settings.namedOnce_of_entriesOf`: a settings file names no setting twice.
-/

namespace RequestScript

/-- The default of a setting. -/
def Setting.initial : Setting → Text
  | .featuresDirectory => "features".toList
  | .outputDirectory => "generated".toList
  | .pattern => "*.feature".toList
  | .outputSuffix => ".txt".toList
  | .logLevel => "INFO".toList

theorem Setting.mem_all (setting : Setting) : setting ∈ Setting.all := by
  cases setting <;> decide

theorem Setting.nodup_all : Setting.all.Nodup := by decide

namespace Settings

/-! ## Texts -/

/-- The settings with given texts. -/
def ofTexts (texts : Setting → Text) : Settings where
  featuresDirectory := Path.ofText (texts .featuresDirectory)
  outputDirectory := Path.ofText (texts .outputDirectory)
  pattern := texts .pattern
  outputSuffix := texts .outputSuffix
  logLevel := texts .logLevel

/-- The settings of the initial texts are the defaults. -/
theorem ofTexts_initial : ofTexts Setting.initial = {} := rfl

/-- To put a text to a setting changes the text of that setting. -/
theorem put_ofTexts (texts : Setting → Text) (setting : Setting) (text : Text) :
    (ofTexts texts).put setting text = ofTexts (Function.update texts setting text) := by
  cases setting <;> rfl

/-- The text that a list of writes has for a setting, if it writes one to it. -/
def written (writes : List (Setting × Option Text)) (setting : Setting) : Option Text :=
  (writes.find? (·.1 = setting)).bind Prod.snd

section Writes

variable {writes : List (Setting × Option Text)} {setting : Setting}

/-- The first write of a setting stands before those behind it. -/
theorem written_cons_self (text : Option Text) :
    written ((setting, text) :: writes) setting = text := by
  simp [written]

/-- A write of another setting makes no difference. -/
theorem written_cons_of_ne {other : Setting} (h : other ≠ setting) (text : Option Text) :
    written ((other, text) :: writes) setting = written writes setting := by
  simp [written, h]

/-- A setting that is not written has no text. -/
theorem written_eq_none (h : setting ∉ writes.map Prod.fst) : written writes setting = none := by
  have hnone : writes.find? (·.1 = setting) = none := by
    rw [List.find?_eq_none]
    intro write hwrite hname
    exact h (List.mem_map.mpr ⟨write, hwrite, of_decide_eq_true hname⟩)
  rw [written, hnone]
  rfl

/-- Where every setting is written to once, the text of a setting is what is written to it. -/
theorem written_eq_some_iff (h : (writes.map Prod.fst).Nodup) {text : Text} :
    written writes setting = some text ↔ (setting, some text) ∈ writes := by
  induction writes with
  | nil => simp [written]
  | cons write writes ih =>
    rcases write with ⟨other, offered⟩
    rw [List.map_cons, List.nodup_cons] at h
    by_cases hother : other = setting
    · subst hother
      have hnew : (other, some text) ∉ writes :=
        fun hmem => h.1 (List.mem_map.mpr ⟨_, hmem, rfl⟩)
      rw [written_cons_self, List.mem_cons, or_iff_left hnew, Prod.mk.injEq, and_iff_right rfl,
        eq_comm]
    · have hne : (setting, some text) ≠ (other, offered) :=
        fun heq => hother (congrArg Prod.fst heq).symm
      rw [written_cons_of_ne hother, ih h.2, List.mem_cons, or_iff_right hne]

/-- Writes change the texts that they are written to, and no others. -/
theorem override_ofTexts (texts : Setting → Text) (h : (writes.map Prod.fst).Nodup) :
    (ofTexts texts).override writes =
      ofTexts fun setting => (written writes setting).getD (texts setting) := by
  induction writes generalizing texts with
  | nil => rfl
  | cons write writes ih =>
    rcases write with ⟨setting, offered⟩
    rw [List.map_cons, List.nodup_cons] at h
    -- the setting of the first write is not written to again
    have hlater : written writes setting = none := written_eq_none h.1
    have hput : (ofTexts texts).override ((setting, offered) :: writes) =
        (ofTexts (Function.update texts setting (offered.getD (texts setting)))).override
          writes := by
      cases offered with
      | none => rw [override_cons_none, Option.getD_none, Function.update_eq_self]
      | some text => rw [override_cons_some, put_ofTexts, Option.getD_some]
    rw [hput, ih _ h.2]
    congr 1
    funext other
    by_cases hother : setting = other
    · subst hother
      rw [hlater, written_cons_self, Option.getD_none, Function.update_self]
    · rw [written_cons_of_ne hother, Function.update_of_ne (Ne.symm hother)]

end Writes

/-! ## Entries -/

/-- The text that an offer comes to, if it offers anything. -/
def Offer.display? : Offer → Option Text
  | .nothing => none
  | .text found => some found
  | .octets found => some (Octets.quoted found)
  | .other _ value => some value.get.display

/-- Whether an offer holds a number that is too long to be shown. -/
def Offer.isTooLong : Offer → Bool
  | .other _ value => value.get.isTooLong
  | _ => false

/-- Whether what is shown of an entry holds a number that is too long: its key, when this names no
setting, and otherwise what it offers. -/
def showsTooLong (entry : Value × Offer) : Bool :=
  match settingOf? entry.1 with
  | none => entry.1.isTooLong
  | some _ => entry.2.isTooLong

/-- The entry names a setting, and nothing about it is too long to be shown. -/
def Fits (entry : Value × Offer) : Prop :=
  settingOf? entry.1 ≠ none ∧ showsTooLong entry = false

instance : DecidablePred Fits := fun entry =>
  inferInstanceAs (Decidable (settingOf? entry.1 ≠ none ∧ showsTooLong entry = false))

instance : DecidablePred IsMistyped := fun entry =>
  decidable_of_iff (∃ setting ∈ Setting.all, settingOf? entry.1 = some setting ∧
      setting.isDirectory = true ∧ entry.2.isPlain = false)
    ⟨fun ⟨setting, _, h⟩ => ⟨setting, h⟩, fun ⟨setting, h⟩ => ⟨setting, setting.mem_all, h⟩⟩

/-- The writes that entries stand for. -/
def writesOf (entries : List (Value × Offer)) : List (Setting × Option Text) :=
  entries.filterMap fun entry =>
    (settingOf? entry.1).map fun setting => (setting, entry.2.display?)

/-- The text that entries have for a setting: what the entry of its name offers, if there is one
and it offers anything. -/
def entryText (entries : List (Value × Offer)) (setting : Setting) : Option Text :=
  (entries.find? fun entry => settingOf? entry.1 = some setting).bind fun entry => entry.2.display?

/-- Entries write what they hold for a setting. -/
theorem written_writesOf (entries : List (Value × Offer)) (setting : Setting) :
    written (writesOf entries) setting = entryText entries setting := by
  induction entries with
  | nil => rfl
  | cons entry entries ih =>
    cases hkey : settingOf? entry.1 with
    | none =>
      rw [entryText, List.find?_cons_of_neg (by simp [hkey]), writesOf,
        List.filterMap_cons_none (by rw [hkey]; rfl)]
      exact ih
    | some other =>
      have hwrites : writesOf (entry :: entries) =
          (other, entry.2.display?) :: writesOf entries :=
        List.filterMap_cons_some (by rw [hkey]; rfl)
      rw [hwrites, entryText]
      by_cases hother : other = setting
      · subst hother
        rw [written_cons_self, List.find?_cons_of_pos (by simp [hkey])]
        rfl
      · rw [written_cons_of_ne hother, List.find?_cons_of_neg (by simp [hkey, hother])]
        exact ih

/-- What a setting takes an offer for, unless it is a directory and no text is offered. -/
theorem writtenText_of_isPlain {setting : Setting} {offer : Offer}
    (h : setting.isDirectory = true → offer.isPlain = true) :
    writtenText setting offer =
      if offer.isTooLong then .error .tooLong else .ok offer.display? := by
  have hno : offer.isPlain = false → setting.isDirectory = false := by
    intro hodd
    by_contra hdirectory
    rw [h (Bool.not_eq_false _ ▸ hdirectory)] at hodd
    cases hodd
  cases offer with
  | nothing => rfl
  | text text => rfl
  | octets octets =>
    rw [writtenText, hno rfl]
    rfl
  | other typeName value =>
    have hlong : (Offer.other typeName value).isTooLong = value.get.isTooLong := rfl
    rw [writtenText, hno rfl, if_neg Bool.false_ne_true, shown, hlong]
    cases value.get.isTooLong <;> rfl

/-- An entry that is not mistyped offers a text to a directory, or nothing. -/
theorem isPlain_of_not_isMistyped {key : Value} {offer : Offer} (h : ¬ IsMistyped (key, offer))
    {setting : Setting} (hkey : settingOf? key = some setting)
    (hdirectory : setting.isDirectory = true) : offer.isPlain = true := by
  by_contra hnot
  exact h ⟨setting, hkey, hdirectory, Bool.eq_false_iff.mpr hnot⟩

/-- Why an entry is refused that is not mistyped: something is too long to be shown, or its key
names no setting. -/
theorem refusal?_of_not_isMistyped {entry : Value × Offer} (h : ¬ IsMistyped entry) :
    refusal? entry =
      if showsTooLong entry then some .tooLong
      else if settingOf? entry.1 = none then some (.unknown entry.1)
      else none := by
  rcases entry with ⟨key, offer⟩
  cases hkey : settingOf? key with
  | none =>
    simp only [refusal?, hkey, refusalOf, showsTooLong, if_true]
    split <;> rfl
  | some setting =>
    have hplain := isPlain_of_not_isMistyped h hkey
    simp only [refusal?, hkey, showsTooLong, writtenText_of_isPlain hplain, reduceCtorEq, if_false]
    cases offer.isTooLong <;> rfl

/-- An entry that is not mistyped is accepted exactly when it fits. -/
theorem refusal?_eq_none_iff {entry : Value × Offer} (h : ¬ IsMistyped entry) :
    refusal? entry = none ↔ Fits entry := by
  rw [refusal?_of_not_isMistyped h, Fits]
  split_ifs <;> simp_all

/-- An entry that fits and is not mistyped writes the text of what it offers. -/
theorem write_of_fits {entry : Value × Offer} (h : ¬ IsMistyped entry) (hfits : Fits entry)
    (settings : Settings) :
    settings.write entry.1 entry.2 = .ok (settings.override (writesOf [entry])) := by
  rcases entry with ⟨key, offer⟩
  rcases hfits with ⟨hknown, hshort⟩
  cases hkey : settingOf? key with
  | none => exact absurd hkey hknown
  | some setting =>
    have hplain := isPlain_of_not_isMistyped h hkey
    simp only [showsTooLong, hkey] at hshort
    have hwrites : writesOf [(key, offer)] = [(setting, offer.display?)] := by
      simp [writesOf, hkey]
    rw [write, hkey, hwrites]
    dsimp only
    rw [writtenText_of_isPlain hplain, hshort]
    cases offer.display? <;> rfl

/-- Entries that fit and are not mistyped are writes of texts. -/
theorem merge_eq_override {entries : List (Value × Offer)}
    (h : ∀ entry ∈ entries, ¬ IsMistyped entry) (hfit : ∀ entry ∈ entries, Fits entry)
    (settings : Settings) :
    settings.merge entries = .ok (settings.override (writesOf entries)) := by
  induction entries generalizing settings with
  | nil => rfl
  | cons entry entries ih =>
    rw [List.forall_mem_cons] at h hfit
    have hwrites : writesOf (entry :: entries) = writesOf [entry] ++ writesOf entries :=
      List.filterMap_append (l := [entry])
    have hoverride : settings.override (writesOf (entry :: entries)) =
        (settings.override (writesOf [entry])).override (writesOf entries) := by
      rw [hwrites, override, List.foldl_append]
      rfl
    rw [merge_cons, write_of_fits h.1 hfit.1, hoverride]
    exact ih h.2 hfit.2 _

/-- Entries that are not mistyped are refused for the first one that does not fit. -/
theorem merge_eq_error_iff_first_misfit {entries : List (Value × Offer)}
    (h : ∀ entry ∈ entries, ¬ IsMistyped entry) {settings : Settings} {cause : WriteFault} :
    settings.merge entries = .error cause ↔
      ∃ front entry back, entries = front ++ entry :: back ∧
        (∀ earlier ∈ front, Fits earlier) ∧
          (showsTooLong entry = true ∧ cause = .tooLong ∨
            settingOf? entry.1 = none ∧ entry.1.isTooLong = false ∧ cause = .unknown entry.1) := by
  have hrefusal : ∀ entry ∈ entries, refusal? entry = some cause ↔
      (showsTooLong entry = true ∧ cause = .tooLong ∨
        settingOf? entry.1 = none ∧ entry.1.isTooLong = false ∧ cause = .unknown entry.1) := by
    intro entry hentry
    rw [refusal?_of_not_isMistyped (h entry hentry)]
    cases hkey : settingOf? entry.1 <;> cases hlong : entry.1.isTooLong <;>
      cases hoffer : entry.2.isTooLong <;> simp [showsTooLong, hkey, hlong, hoffer, eq_comm]
  rw [merge_eq_error_iff_first]
  constructor
  · rintro ⟨front, entry, back, rfl, hfront, hcause⟩
    refine ⟨front, entry, back, rfl, fun earlier hearlier => ?_, ?_⟩
    · exact (refusal?_eq_none_iff (h earlier (by simp [hearlier]))).mp (hfront earlier hearlier)
    · exact (hrefusal entry (by simp)).mp hcause
  · rintro ⟨front, entry, back, rfl, hfront, hcause⟩
    refine ⟨front, entry, back, rfl, fun earlier hearlier => ?_, ?_⟩
    · exact (refusal?_eq_none_iff (h earlier (by simp [hearlier]))).mpr (hfront earlier hearlier)
    · exact (hrefusal entry (by simp)).mpr hcause

/-! ## Names -/

/-- No two entries name the same setting. -/
def NamedOnce (entries : List (Value × Offer)) : Prop :=
  entries.Pairwise fun entry later =>
    ∀ setting, settingOf? entry.1 = some setting → settingOf? later.1 ≠ some setting

/-- Entries that name every setting once write every setting once. -/
theorem NamedOnce.nodup_writesOf {entries : List (Value × Offer)} (h : NamedOnce entries) :
    ((writesOf entries).map Prod.fst).Nodup := by
  have hsettings : (writesOf entries).map Prod.fst = entries.filterMap (settingOf? ·.1) := by
    simp only [writesOf, List.map_filterMap, Option.map_map, Function.comp_def, Option.map_id']
  rw [hsettings, List.Nodup, List.pairwise_filterMap]
  refine h.imp fun hother setting hsetting other hlater heq => ?_
  exact hother setting hsetting (heq ▸ hlater)

/-- Entries that name every setting once may be written in any order. -/
theorem NamedOnce.entryText_eq_some_iff {entries : List (Value × Offer)} (h : NamedOnce entries)
    {setting : Setting} {text : Text} :
    entryText entries setting = some text ↔
      ∃ entry ∈ entries, settingOf? entry.1 = some setting ∧ entry.2.display? = some text := by
  rw [← written_writesOf, written_eq_some_iff h.nodup_writesOf]
  simp only [writesOf, List.mem_filterMap, Option.map_eq_some_iff, Prod.mk.injEq,
    and_left_comm, exists_eq_left]

/-- Entries in another order name every setting once as well. -/
theorem NamedOnce.perm {entries others : List (Value × Offer)} (h : NamedOnce entries)
    (hperm : others.Perm entries) : NamedOnce others := by
  refine (hperm.pairwise_iff ?_).mpr h
  intro entry later hother setting hlater hentry
  exact hother setting hentry hlater

/-- The order of entries makes no difference to what they hold, if they name every setting once. -/
theorem NamedOnce.entryText_perm {entries others : List (Value × Offer)} (h : NamedOnce entries)
    (hperm : others.Perm entries) : entryText others = entryText entries := by
  funext setting
  apply Option.ext
  intro text
  rw [(h.perm hperm).entryText_eq_some_iff, h.entryText_eq_some_iff]
  simp only [hperm.mem_iff]

@[simp]
theorem settingOf?_name (setting : Setting) : settingOf? (.text setting.name) = some setting :=
  Setting.ofName?_name setting

/-- Only the name of a setting is a key for it. -/
theorem eq_text_of_settingOf? {key : Value} {setting : Setting}
    (h : settingOf? key = some setting) : key = .text setting.name := by
  cases key with
  | text name =>
    have hname : Setting.all.find? (·.name = name) = some setting := h
    have heq : setting.name = name := by simpa using List.find?_some hname
    rw [heq]
  | _ => cases h

/-- Two scalars that name the same setting are equal as keys. -/
theorem sameKey_of_settingOf? {graph : Yaml.Graph} {key later : Yaml.Datum} {setting : Setting}
    (hkey : key.isKey = true) (hlater : later.isKey = true)
    (h : settingOf? (graph.value key) = some setting)
    (hsame : settingOf? (graph.value later) = some setting) : Yaml.sameKey key later = true := by
  rcases key with ⟨value, origin⟩ | id
  · rcases later with ⟨other, source⟩ | id
    · rw [Yaml.Graph.value_scalar] at h hsame
      rw [eq_text_of_settingOf? h, eq_text_of_settingOf? hsame]
      simp [Yaml.sameKey, Yaml.sameValue, Yaml.keyNumber]
    · cases hlater
  · cases hkey

/-- What a settings file stands for is what its text is loaded as. -/
theorem graphOf_eq_ok {tree : FileTree} {path : Path} {graph : Yaml.Graph}
    (h : graphOf tree path = .ok graph) : ∃ supply, Yaml.load supply = .ok graph := by
  unfold graphOf at h
  split at h
  · cases h
  · split at h
    · cases h
    · cases h
    · rename_i hload
      cases h
      exact ⟨_, hload⟩

/-- A settings file names no setting twice. -/
theorem namedOnce_of_entriesOf {tree : FileTree} {path : Path} {entries : List (Value × Offer)}
    (h : entriesOf tree path = .ok entries) : NamedOnce entries := by
  change (graphOf tree path).bind _ = .ok entries at h
  rcases except_bind_eq_ok.mp h with ⟨graph, hgraph, hroot⟩
  split at hroot
  · cases hroot
    exact List.Pairwise.nil
  · cases hroot
  · rename_i id _
    split at hroot
    · rename_i parts hfilling
      cases hroot
      rcases graphOf_eq_ok hgraph with ⟨supply, hload⟩
      have hkeyed := Yaml.keyed_of_load hload hfilling
      rw [NamedOnce, List.pairwise_map]
      -- two keys with the name of one setting would be equal
      refine hkeyed.distinct.imp_of_mem ?_
      intro part later hpart hlater hdistinct setting hname hsame
      rw [sameKey_of_settingOf? (hkeyed.scalar part hpart) (hkeyed.scalar later hlater) hname
        hsame] at hdistinct
      cases hdistinct
    · cases hroot

/-! ## Layers -/

/-- Entries that fit form a layer: a setting has the text of its entry, if this has one. -/
theorem merge_ofTexts {entries : List (Value × Offer)} (h : ∀ entry ∈ entries, ¬ IsMistyped entry)
    (hfit : ∀ entry ∈ entries, Fits entry) (honce : NamedOnce entries) (texts : Setting → Text) :
    (ofTexts texts).merge entries =
      .ok (ofTexts fun setting => (entryText entries setting).getD (texts setting)) := by
  rw [merge_eq_override h hfit, override_ofTexts texts honce.nodup_writesOf]
  simp only [written_writesOf]

/-- The environment forms a layer: a setting has the text of its variable, if this is not
empty. -/
theorem override_environmentTexts (environment : Environment) (texts : Setting → Text) :
    (ofTexts texts).override (environmentTexts environment) =
      ofTexts fun setting => (environmentText environment setting).getD (texts setting) := by
  have hsettings : (environmentTexts environment).map Prod.fst = Setting.all := by
    rw [environmentTexts, List.map_map]
    exact List.map_id Setting.all
  have hnodup : ((environmentTexts environment).map Prod.fst).Nodup :=
    hsettings ▸ Setting.nodup_all
  have hwritten : written (environmentTexts environment) = environmentText environment := by
    funext setting
    apply Option.ext
    intro text
    rw [written_eq_some_iff hnodup, environmentTexts, List.mem_map]
    constructor
    · rintro ⟨other, -, heq⟩
      rw [Prod.mk.injEq] at heq
      exact heq.1 ▸ heq.2
    · intro htext
      exact ⟨setting, setting.mem_all, by rw [htext]⟩
  rw [override_ofTexts texts hnodup, hwritten]

/-- Settings are loaded from a settings file by writing its entries over the defaults, and the
environment over both. -/
theorem load_of_entriesOf {tree : FileTree} {path : Path} {entries : List (Value × Offer)}
    (h : entriesOf tree path = .ok entries) (environment : Environment) :
    load (some path) environment tree =
      ((({} : Settings).merge entries).mapError .refused).map
        (·.override (environmentTexts environment)) := by
  have hfile : ∀ settings : Settings,
      settings.mergeFile tree path = (settings.merge entries).mapError .refused := by
    intro settings
    rw [mergeFile, h]
    cases hmerge : settings.merge entries <;>
      simp [hmerge, bind, Except.bind, pure, Except.pure, Except.mapError]
  rw [load]
  dsimp only
  rw [hfile]
  cases ({} : Settings).merge entries <;> rfl

end Settings
end RequestScript
