import RequestScript.Conversion
import RequestScript.Proofs.Text.Cuts
import RequestScript.Proofs.Text.Words
import RequestScript.Proofs.Writes

/-!
# Records

An event is recorded as its name and its fields.  The fields may hold any text, also one of several
lines, yet a record is a single line: numbers and words need no control character, and a text stands
between quotes, where every control character is escaped.

Main results:

- Definition {lit}`Text.Clean`: a text without control characters.
- Theorem {lit}`Value.clean_json`: no value brings a control character into a record.
- Theorem {lit}`Event.clean_record`: the record of an event is clean if its name is.
- Theorem {lit}`Event.get?_recordFields`: what a record tells about a field.
- Theorem {lit}`Conversion.getElem?_emissionEventsFrom`: the events of requests, by their places.
-/

namespace RequestScript

/-! ## Control characters -/

namespace Text

/-- A text without control characters: no character stands before the blank in the code. -/
def Clean (text : Text) : Prop :=
  ∀ c ∈ text, 0x20 ≤ c.toNat

instance (text : Text) : Decidable text.Clean :=
  inferInstanceAs (Decidable (∀ c ∈ text, 0x20 ≤ c.toNat))

theorem clean_nil : Clean [] := by decide

/-- A text is clean exactly when its first character and the rest are. -/
theorem clean_cons {c : Char} {text : Text} : Clean (c :: text) ↔ 0x20 ≤ c.toNat ∧ text.Clean :=
  List.forall_mem_cons

/-- Two texts are clean together exactly when each of them is. -/
theorem clean_append {text other : Text} : Clean (text ++ other) ↔ text.Clean ∧ other.Clean :=
  List.forall_mem_append

/-- A text is clean if it has no other characters than a clean one. -/
theorem Clean.of_subset {text other : Text} (h : text.Clean) (hsubset : other ⊆ text) :
    other.Clean :=
  fun c hc => h c (hsubset hc)

/-- A clean text is one line. -/
theorem Clean.newline_not_mem {text : Text} (h : text.Clean) : '\n' ∉ text := by
  intro hnewline
  exact absurd (h '\n' hnewline) (by decide)

/-- Clean parts with a clean separator between them make a clean text. -/
theorem Clean.join {separator : Text} (hseparator : separator.Clean) {parts : List Text}
    (h : ∀ part ∈ parts, part.Clean) : (join separator parts).Clean := by
  intro c hc
  by_cases hmem : c ∈ separator
  · exact hseparator c hmem
  · rcases (mem_join hmem parts).mp hc with ⟨part, hpart, hin⟩
    exact h part hpart c hin

theorem clean_replicate {c : Char} (h : 0x20 ≤ c.toNat) (count : Nat) :
    Clean (List.replicate count c) := by
  intro other hother
  rw [List.eq_of_mem_replicate hother]
  exact h

/-- Numbers are digits, which are no control characters. -/
theorem clean_ofNat (n : Nat) : (ofNat n).Clean := by
  intro c hc
  have hdigit : c.isDigit = true := Nat.isDigit_of_mem_toDigits (by decide) (by decide) hc
  have hrange : 48 ≤ c.toNat ∧ c.toNat ≤ 57 := by
    simpa [Char.isDigit, UInt32.le_iff_toNat_le] using hdigit
  omega

/-- The sign of a number is no control character either. -/
theorem clean_ofInt (value : Int) : (ofInt value).Clean := by
  cases value with
  | ofNat n => exact clean_ofNat n
  | negSucc n => exact clean_cons.mpr ⟨by decide, clean_ofNat (n + 1)⟩

/-- Zeros in front of a number leave it clean. -/
theorem clean_padded (width n : Nat) : (padded 10 width n).Clean :=
  clean_append.mpr ⟨clean_replicate (by decide) _, clean_ofNat n⟩

end Text

open Text

/-! ## Numbers with a fraction -/

namespace Binary64

theorem clean_sign (negative : Bool) : Clean (if negative then ['-'] else []) := by
  cases negative with
  | false => decide
  | true => decide

/-- A number stays clean when its point is set among its digits or zeros are put to them. -/
theorem clean_positional {digits : Text} (h : digits.Clean) (whole : Int) :
    (positional digits whole).Clean := by
  unfold positional
  split
  · exact clean_append.mpr ⟨clean_append.mpr ⟨by decide, clean_replicate (by decide) _⟩, h⟩
  · have hfront := h.of_subset (List.take_subset whole.toNat digits)
    have hfraction := h.of_subset (List.drop_subset whole.toNat digits)
    have hshown : Clean (if (digits.drop whole.toNat).isEmpty then ['0']
        else digits.drop whole.toNat) := by
      split
      · decide
      · exact hfraction
    exact clean_append.mpr ⟨clean_append.mpr ⟨hfront, clean_replicate (by decide) _⟩,
      clean_cons.mpr ⟨by decide, hshown⟩⟩

/-- A number stays clean when its point is set after the first digit and the power is named. -/
theorem clean_scientific {digits : Text} (h : digits.Clean) (power : Int) :
    (scientific digits power).Clean := by
  have hfront := h.of_subset (List.take_subset 1 digits)
  have hfraction := h.of_subset (List.drop_subset 1 digits)
  have hshown : Clean (if (digits.drop 1).isEmpty then [] else '.' :: digits.drop 1) := by
    split
    · exact clean_nil
    · exact clean_cons.mpr ⟨by decide, hfraction⟩
  have hmark : Clean (if power < 0 then "e-".toList else "e+".toList) := by
    split <;> decide
  exact clean_append.mpr ⟨clean_append.mpr ⟨clean_append.mpr ⟨hfront, hshown⟩, hmark⟩,
    clean_padded 2 power.natAbs⟩

/-- A number with a fraction is written without control characters, whatever its size. -/
theorem clean_text (value : Binary64) : value.text.Clean := by
  cases value with
  | nan => decide
  | infinite negative => exact clean_append.mpr ⟨clean_sign negative, by decide⟩
  | finite negative significand exponent =>
    refine clean_append.mpr ⟨clean_sign negative, ?_⟩
    split
    · decide
    · have htrimmed := (clean_ofNat (shortest significand exponent).1).of_subset
        (stripEnd_isPrefix (· == '0') _).subset
      dsimp only
      split
      · exact clean_positional htrimmed _
      · exact clean_scientific htrimmed _

end Binary64

/-! ## Values -/

namespace Value

/-- Control characters are escaped. -/
theorem clean_jsonChar (c : Char) : (jsonChar c).Clean := by
  have hescape : ∀ n < 0x20, Clean ("\\u".toList ++ padded 16 4 n) := by decide
  unfold jsonChar
  split_ifs with hquoted hnewline hreturn htab hbackspace hfeed hcontrol
  · have hc : c = '"' ∨ c = '\\' := by simpa using hquoted
    rcases hc with rfl | rfl <;> decide
  · decide
  · decide
  · decide
  · decide
  · decide
  · exact hescape c.toNat hcontrol
  · exact clean_cons.mpr ⟨Nat.le_of_not_lt hcontrol, clean_nil⟩

/-- Between its quotes a text has no control character left. -/
theorem clean_jsonText (text : Text) : (jsonText text).Clean := by
  have hinner : Clean (text.flatMap jsonChar) := by
    intro c hc
    rcases List.mem_flatMap.mp hc with ⟨written, -, hescaped⟩
    exact clean_jsonChar written c hescaped
  exact clean_append.mpr ⟨clean_cons.mpr ⟨by decide, hinner⟩, by decide⟩

/-- Numbers that are none and infinite ones are spelled by words. -/
theorem clean_jsonFloat (value : Binary64) : (jsonFloat value).Clean := by
  cases value with
  | nan => decide
  | infinite negative => exact clean_append.mpr ⟨Binary64.clean_sign negative, by decide⟩
  | finite negative significand exponent =>
    exact Binary64.clean_text (.finite negative significand exponent)

/-- A key is written as a text. -/
theorem clean_jsonKey (key : Value) : (jsonKey key).Clean := by
  cases key <;> exact clean_jsonText _

/-- Clean items between two brackets make a clean text. -/
theorem clean_bracket {opening closing : Char} (hopening : 0x20 ≤ opening.toNat)
    (hclosing : 0x20 ≤ closing.toNat) {items : List Text} (h : ∀ item ∈ items, item.Clean) :
    (bracket opening closing items).Clean :=
  clean_append.mpr ⟨clean_cons.mpr ⟨hopening, .join (by decide) h⟩,
    clean_cons.mpr ⟨hclosing, clean_nil⟩⟩

mutual

/-- No value brings a control character into a record. -/
theorem clean_json (value : Value) : (json value).Clean := by
  cases value with
  | null =>
    rw [json]
    decide
  | bool truth =>
    rw [json]
    cases truth <;> decide
  | int number =>
    rw [json]
    exact clean_ofInt number
  | float number =>
    rw [json]
    exact clean_jsonFloat number
  | text text =>
    rw [json]
    exact clean_jsonText text
  | list items =>
    rw [json]
    exact clean_bracket (by decide) (by decide) (clean_of_mem_jsonItems items)
  | pair first second =>
    rw [json]
    have hfirst := clean_json first
    have hsecond := clean_json second
    exact clean_bracket (by decide) (by decide) (by simp [hfirst, hsecond])
  | map entries =>
    rw [json]
    exact clean_bracket (by decide) (by decide) (clean_of_mem_jsonEntries entries)
  | octets | date | moment | set | repeatedList | repeatedMap =>
    -- records have no form of their own for these values: they are shown as texts
    exact clean_jsonText _

/-- No item of a list brings a control character into a record. -/
theorem clean_of_mem_jsonItems (items : List Value) : ∀ item ∈ jsonItems items, item.Clean := by
  cases items with
  | nil => exact fun _ h => by cases h
  | cons item rest =>
    rw [jsonItems]
    exact List.forall_mem_cons.mpr ⟨clean_json item, clean_of_mem_jsonItems rest⟩

/-- No entry of a mapping brings a control character into a record, neither by its key nor by its
value. -/
theorem clean_of_mem_jsonEntries (entries : List (Value × Value)) :
    ∀ entry ∈ jsonEntries entries, entry.Clean := by
  cases entries with
  | nil => exact fun _ h => by cases h
  | cons entry rest =>
    rcases entry with ⟨key, value⟩
    rw [jsonEntries]
    exact List.forall_mem_cons.mpr
      ⟨clean_append.mpr ⟨clean_append.mpr ⟨clean_jsonKey key, by decide⟩, clean_json value⟩,
        clean_of_mem_jsonEntries rest⟩

end

end Value

/-! ## Events -/

namespace Event

/-- Whatever the fields of an event are, its record is clean if its name is. -/
theorem clean_record {event : Event} (h : event.name.Clean) : event.record.Clean :=
  clean_append.mpr ⟨h, clean_cons.mpr ⟨by decide, Value.clean_json _⟩⟩

/-- A record has the fields of its event; the name and the level of the event are only added. -/
theorem get?_recordFields (event : Event) {key : Text} {value : Value}
    (h : event.fields.get? key = some value) : event.recordFields.get? key = some value :=
  OrderedMap.get?_insertNew_of_eq_some (OrderedMap.get?_insertNew_of_eq_some h _ _) _ _

/-- No field stands twice in a record. -/
theorem nodup_keys_recordFields {event : Event} (h : event.fields.keys.Nodup) :
    event.recordFields.keys.Nodup :=
  OrderedMap.nodup_keys_insertNew (OrderedMap.nodup_keys_insertNew h _ _) _ _

/-- Events that are told later are recorded behind the others. -/
theorem records_append (events later : List Event) :
    records (events ++ later) = records events ++ records later :=
  List.flatMap_append

end Event

namespace Conversion

/-- The events of a logger have its fields, unless they have their own of the same name. -/
theorem field_event (logger : Logger) (level : Level) (name : Text)
    (writes : List (Text × Value)) (key : Text) :
    (logger.event level name (.ofList writes)).fields.get? key =
      ((OrderedMap.ofList writes).get? key).or (logger.bound.get? key) :=
  OrderedMap.get?_merge logger.bound (OrderedMap.nodup_keys_ofList writes) key

/-- The events of requests, by their places: they are numbered from an index on. -/
theorem getElem?_emissionEventsFrom (logger : Logger) (start place : Nat)
    (requests : List Request) :
    (emissionEventsFrom logger start requests)[place]? =
      requests[place]?.map (emissionEvent logger (start + place)) := by
  induction requests generalizing start place with
  | nil => rfl
  | cons request rest ih =>
    cases place with
    | zero => rfl
    | succ place =>
      have hplace : start + 1 + place = start + (place + 1) := by omega
      rw [emissionEventsFrom, List.getElem?_cons_succ, List.getElem?_cons_succ, ih, hplace]

/-- Every request is told by one event. -/
theorem length_emissionEventsFrom (logger : Logger) (start : Nat) (requests : List Request) :
    (emissionEventsFrom logger start requests).length = requests.length := by
  induction requests generalizing start with
  | nil => rfl
  | cons request rest ih => rw [emissionEventsFrom, List.length_cons, List.length_cons, ih]

/-- Every event of a list of requests tells of one of them. -/
theorem exists_of_getElem?_emissionEventsFrom {logger : Logger} {start place : Nat}
    {requests : List Request} {event : Event}
    (h : (emissionEventsFrom logger start requests)[place]? = some event) :
    ∃ request, event = emissionEvent logger (start + place) request := by
  rw [getElem?_emissionEventsFrom] at h
  rcases Option.map_eq_some_iff.mp h with ⟨request, -, hevent⟩
  exact ⟨request, hevent.symm⟩

end Conversion

end RequestScript
