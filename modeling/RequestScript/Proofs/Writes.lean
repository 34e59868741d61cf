import Mathlib.Data.List.Basic
import Mathlib.Data.List.Induction
import Mathlib.Data.List.Nodup
import RequestScript.OrderedMap

/-!
# Ordered maps told by their writes

An ordered map is known by the names that have been written to it, in order and with
repetitions, and by the value that each name has.  Its keys are the names without
their repetitions, the first one kept.

Main results:

- Definition {lit}`OrderedMap.Lists`: a map lists names with their values.
- Theorem {lit}`Lists.insert` and theorem {lit}`Lists.insertNew`: what a write adds.
- Theorem {lit}`lastValue_append`: a later write decides.
- Theorem {lit}`OrderedMap.perm_entries_iff`: which maps differ in their order only.
- Definition {lit}`OrderedMap.erase`: a map without one of its keys.
-/

namespace RequestScript

section LastValue

variable {α β : Type} [DecidableEq α]

/-- The value that a list of writes gives a name last. -/
def lastValue (writes : List (α × β)) (name : α) : Option β :=
  (writes.filter fun write => write.1 = name).getLast?.map Prod.snd

/-- A later write decides. -/
theorem lastValue_append (writes : List (α × β)) (name : α) (value : β) (other : α) :
    lastValue (writes ++ [(name, value)]) other =
      if other = name then some value else lastValue writes other := by
  by_cases h : name = other
  · subst h
    simp [lastValue]
  · have h' : ¬ other = name := fun e => h e.symm
    simp [lastValue, h, h']

/-- The value that a name has when writes to it count most and all other names of a list
share one value. -/
def valueOr (shared : β) (names : List α) (writes : List (α × β)) (name : α) : Option β :=
  (lastValue writes name).or (if name ∈ names then some shared else none)

end LastValue

/-- Names without repetitions: a new name comes last. -/
theorem eraseDups_append_singleton {α : Type} [DecidableEq α] (names : List α) (name : α) :
    (names ++ [name]).eraseDups =
      if name ∈ names then names.eraseDups else names.eraseDups ++ [name] := by
  rw [List.eraseDups_append]
  by_cases h : name ∈ names
  · simp [List.removeAll, h]
  · simp [List.removeAll, h, List.eraseDups_cons]

/-- Nothing stands twice where repetitions are left out. -/
theorem nodup_eraseDups {α : Type} [DecidableEq α] (names : List α) : names.eraseDups.Nodup := by
  induction names using List.reverseRecOn with
  | nil => simp
  | append_singleton names name ih =>
    rw [eraseDups_append_singleton]
    by_cases h : name ∈ names
    · rw [if_pos h]
      exact ih
    · rw [if_neg h, List.nodup_append]
      refine ⟨ih, by simp, ?_⟩
      intro first hfirst second hsecond
      rw [List.mem_singleton.mp hsecond]
      rintro rfl
      exact h (List.mem_eraseDups.mp hfirst)

namespace OrderedMap

variable {α β : Type} [DecidableEq α]

/-- A map lists names, in the order in which they first occur, with their values. -/
structure Lists (m : OrderedMap α β) (names : List α) (value? : α → Option β) : Prop where
  keys : m.keys = names.eraseDups
  get? : ∀ name, m.get? name = value? name

/-- The empty map lists nothing. -/
theorem lists_empty : Lists (∅ : OrderedMap α β) [] fun _ => none :=
  ⟨rfl, fun _ => rfl⟩

/-- Nothing is found for a key that is not there. -/
theorem get?_eq_none_of_not_mem {m : OrderedMap α β} {name : α} (h : name ∉ m.keys) :
    m.get? name = none := by
  rw [get?, List.lookup_eq_none_iff]
  intro entry hentry
  have hne : name ≠ entry.1 := fun e => h (e ▸ List.mem_map_of_mem hentry)
  simpa using hne

/-- A map without repeated keys has the value of each of its entries. -/
theorem get?_of_mem_entries {m : OrderedMap α β} (h : m.keys.Nodup) {name : α} {value : β}
    (hmem : (name, value) ∈ m.entries) : m.get? name = some value := by
  rcases List.append_of_mem hmem with ⟨front, back, hsplit⟩
  rw [keys, hsplit, List.map_append, List.map_cons, List.nodup_append] at h
  rw [get?, List.lookup_eq_some_iff]
  refine ⟨front, back, hsplit, fun entry hentry => ?_⟩
  have hne : entry.1 ≠ name := h.2.2 entry.1 (List.mem_map_of_mem hentry) name List.mem_cons_self
  simpa using fun e => hne e.symm

/-- What is found stands among the entries. -/
theorem mem_entries_of_get? {m : OrderedMap α β} {name : α} {value : β}
    (h : m.get? name = some value) : (name, value) ∈ m.entries := by
  rw [get?, List.lookup_eq_some_iff] at h
  rcases h with ⟨front, back, hsplit, -⟩
  rw [hsplit]
  exact List.mem_append_right front List.mem_cons_self

/-- The entries of a map are its keys with their values. -/
theorem entries_eq_filterMap {m : OrderedMap α β} (h : m.keys.Nodup) :
    m.entries = m.keys.filterMap fun name => (m.get? name).map (name, ·) := by
  rcases m with ⟨entries⟩
  simp only [keys, get?] at h ⊢
  induction entries with
  | nil => rfl
  | cons entry entries ih =>
    rcases entry with ⟨name, value⟩
    rw [List.map_cons, List.nodup_cons] at h
    have hrest : ∀ other ∈ entries.map Prod.fst,
        (List.lookup other ((name, value) :: entries)).map (other, ·) =
          (List.lookup other entries).map (other, ·) := by
      intro other hother
      have hne : (other == name) = false := by
        rw [beq_eq_false_iff_ne]
        rintro rfl
        exact h.1 hother
      simp [List.lookup_cons, hne]
    rw [List.map_cons, List.filterMap_cons, List.lookup_cons_self, List.filterMap_congr hrest,
      ← ih h.2]
    rfl

/-- Maps with the same keys in the same order and the same values are equal. -/
theorem eq_of_keys_eq {m n : OrderedMap α β} (h : m.keys.Nodup) (hkeys : n.keys = m.keys)
    (hget : ∀ name, n.get? name = m.get? name) : n = m := by
  have hentries : n.entries = m.entries := by
    rw [entries_eq_filterMap h, entries_eq_filterMap (hkeys ▸ h), hkeys]
    simp only [hget]
  exact congrArg OrderedMap.mk hentries

/-- A new key goes behind all others. -/
theorem insertEntry_of_not_mem {name : α} {entries : List (α × β)}
    (h : name ∉ entries.map Prod.fst) (value : β) :
    insertEntry name value entries = entries ++ [(name, value)] := by
  induction entries with
  | nil => rfl
  | cons entry entries ih =>
    rw [List.map_cons, List.mem_cons, not_or] at h
    rw [insertEntry, if_neg fun e => h.1 e.symm, ih h.2, List.cons_append]

/-- Writes to different names are the entries of the map that they build. -/
theorem ofList_of_nodup {entries : List (α × β)} (h : (entries.map Prod.fst).Nodup) :
    ofList entries = ⟨entries⟩ := by
  have hbuild : ∀ (later front : List (α × β)), ((front ++ later).map Prod.fst).Nodup →
      later.foldl (fun m entry => m.insert entry.1 entry.2) (⟨front⟩ : OrderedMap α β) =
        ⟨front ++ later⟩ := by
    intro later
    induction later with
    | nil => simp
    | cons entry later ih =>
      intro front hnodup
      have hnew : entry.1 ∉ front.map Prod.fst := by
        rw [List.map_append, List.map_cons, List.nodup_append] at hnodup
        intro hmem
        exact hnodup.2.2 entry.1 hmem entry.1 List.mem_cons_self rfl
      have hinsert : (⟨front⟩ : OrderedMap α β).insert entry.1 entry.2 = ⟨front ++ [entry]⟩ :=
        congrArg OrderedMap.mk (insertEntry_of_not_mem hnew entry.2)
      rw [List.foldl_cons, hinsert, ih (front ++ [entry]) (by simpa using hnodup)]
      simp
  exact hbuild entries [] h

/-- No key stands twice in a map that another one is merged into. -/
theorem nodup_keys_merge {m : OrderedMap α β} (h : m.keys.Nodup) (n : OrderedMap α β) :
    (m.merge n).keys.Nodup := by
  rcases n with ⟨entries⟩
  rw [merge]
  induction entries generalizing m with
  | nil => exact h
  | cons entry entries ih => exact ih (nodup_keys_insert h entry.1 entry.2)

/-- No key stands twice in a map that is made by writes. -/
theorem nodup_keys_ofList (writes : List (α × β)) : (ofList writes).keys.Nodup :=
  nodup_keys_merge (m := ∅) List.nodup_nil ⟨writes⟩

/-- No key stands twice in a map that a new key is put into. -/
theorem nodup_keys_insertNew {m : OrderedMap α β} (h : m.keys.Nodup) (key : α) (value : β) :
    (m.insertNew key value).keys.Nodup := by
  rw [insertNew]
  split
  · exact h
  · exact nodup_keys_insert h key value

/-- A write to a new key only keeps the values that are there. -/
theorem get?_insertNew_of_eq_some {m : OrderedMap α β} {key : α} {value : β}
    (h : m.get? key = some value) (other : α) (new : β) :
    (m.insertNew other new).get? key = some value := by
  by_cases hpresent : m.contains other = true
  · rw [insertNew, if_pos hpresent, h]
  · have hne : key ≠ other := by
      rintro rfl
      have hkey : key ∈ m.keys := List.mem_map_of_mem (mem_entries_of_get? h)
      exact hpresent ((contains_iff_mem_keys m key).mpr hkey)
    rw [insertNew, if_neg hpresent, get?_insert_of_ne m hne, h]

/-- In merged maps the values of the second one count most. -/
theorem get?_merge (m : OrderedMap α β) {n : OrderedMap α β} (h : n.keys.Nodup) (key : α) :
    (m.merge n).get? key = (n.get? key).or (m.get? key) := by
  rcases n with ⟨entries⟩
  rw [merge, get?]
  dsimp only [keys] at h ⊢
  induction entries generalizing m with
  | nil => rfl
  | cons entry entries ih =>
    rcases entry with ⟨name, value⟩
    rw [List.map_cons, List.nodup_cons] at h
    rw [List.foldl_cons, ih (m.insert name value) h.2]
    change (List.lookup key entries).or _ = (List.lookup key ((name, value) :: entries)).or _
    rw [List.lookup_cons]
    by_cases hkey : key = name
    · subst hkey
      have hnone : List.lookup key entries = none := get?_eq_none_of_not_mem (m := ⟨entries⟩) h.1
      rw [hnone, get?_insert_self, beq_self_eq_true]
      rfl
    · have hne : (key == name) = false := by simpa using hkey
      rw [get?_insert_of_ne m hkey, hne]

/-- Where no key stands twice, exactly the entries are found. -/
theorem get?_eq_some_iff {m : OrderedMap α β} (h : m.keys.Nodup) {name : α} {value : β} :
    m.get? name = some value ↔ (name, value) ∈ m.entries :=
  ⟨mem_entries_of_get?, get?_of_mem_entries h⟩

/-- Maps without repeated keys have the same values exactly if they list the same entries, perhaps
in another order. -/
theorem perm_entries_iff {m n : OrderedMap α β} (hm : m.keys.Nodup) (hn : n.keys.Nodup) :
    m.entries.Perm n.entries ↔ ∀ name, m.get? name = n.get? name := by
  rw [List.perm_ext_iff_of_nodup (List.Nodup.of_map Prod.fst hm) (List.Nodup.of_map Prod.fst hn)]
  constructor
  · intro hsame name
    apply Option.ext
    intro value
    rw [get?_eq_some_iff hm, get?_eq_some_iff hn, hsame]
  · rintro hsame ⟨name, value⟩
    rw [← get?_eq_some_iff hm, ← get?_eq_some_iff hn, hsame]

/-! ## Erasing -/

/-- A map without one of its keys. -/
def erase (m : OrderedMap α β) (key : α) : OrderedMap α β :=
  ⟨m.entries.filter fun entry => entry.1 ≠ key⟩

/-- An erased key is not found, and the others are found as before. -/
theorem get?_erase (m : OrderedMap α β) (key other : α) :
    (m.erase key).get? other = if other = key then none else m.get? other := by
  rw [erase, get?, get?]
  induction m.entries with
  | nil => simp
  | cons entry entries ih =>
    rcases entry with ⟨name, value⟩
    by_cases hname : name = key
    · rw [List.filter_cons_of_neg (by simpa using hname), ih, hname]
      by_cases hother : other = key
      · rw [if_pos hother, if_pos hother]
      · have hne : (other == key) = false := by simpa using hother
        rw [if_neg hother, if_neg hother, List.lookup_cons, hne]
    · rw [List.filter_cons_of_pos (by simpa using hname), List.lookup_cons, List.lookup_cons, ih]
      by_cases hother : other = name
      · have hne : ¬ other = key := fun e => hname (hother ▸ e)
        rw [if_neg hne, if_neg hne]
      · have hne : (other == name) = false := by simpa using hother
        rw [hne]

/-- To erase a key and to write another one can be done in any order. -/
theorem insert_erase (m : OrderedMap α β) {key other : α} (h : other ≠ key) (value : β) :
    (m.erase key).insert other value = (m.insert other value).erase key := by
  have hentries : ∀ entries : List (α × β),
      insertEntry other value (entries.filter fun entry => entry.1 ≠ key) =
        (insertEntry other value entries).filter fun entry => entry.1 ≠ key := by
    intro entries
    induction entries with
    | nil => simp [insertEntry, h]
    | cons entry entries ih =>
      by_cases hother : entry.1 = other
      · have hkey : entry.1 ≠ key := fun e => h (hother ▸ e)
        simp [insertEntry, hother, h]
      · by_cases hkey : entry.1 = key
        · rw [List.filter_cons_of_neg (by simpa using hkey), insertEntry, if_neg hother,
            List.filter_cons_of_neg (by simpa using hkey), ih]
        · rw [List.filter_cons_of_pos (by simpa using hkey), insertEntry, if_neg hother,
            insertEntry, if_neg hother, List.filter_cons_of_pos (by simpa using hkey), ih]
  exact congrArg OrderedMap.mk (hentries m.entries)

/-! ## Listing -/

namespace Lists

variable {m : OrderedMap α β} {names : List α} {value? : α → Option β}

/-- The keys of a map are the names that it lists. -/
theorem mem_keys_iff (h : m.Lists names value?) (name : α) : name ∈ m.keys ↔ name ∈ names := by
  rw [h.keys, List.mem_eraseDups]

/-- There is no value for a name that is not listed. -/
theorem value?_of_not_mem (h : m.Lists names value?) {name : α} (hname : name ∉ names) :
    value? name = none := by
  rw [← h.get?]
  exact get?_eq_none_of_not_mem fun hmem => hname ((h.mem_keys_iff name).mp hmem)

/-- A write names its key and decides its value. -/
theorem insert (h : m.Lists names value?) (name : α) (value : β) :
    (m.insert name value).Lists (names ++ [name])
      fun other => if other = name then some value else value? other := by
  constructor
  · rw [eraseDups_append_singleton, ← h.keys]
    by_cases hname : name ∈ names
    · rw [if_pos hname, keys_insert_of_mem ((h.mem_keys_iff name).mpr hname)]
    · rw [if_neg hname,
        keys_insert_of_not_mem fun hmem => hname ((h.mem_keys_iff name).mp hmem)]
  · intro other
    by_cases hother : other = name
    · rw [if_pos hother, hother, get?_insert_self]
    · rw [if_neg hother, get?_insert_of_ne m hother, h.get?]

/-- A write to a new key only names its key, and decides its value if it is new. -/
theorem insertNew (h : m.Lists names value?) (name : α) (value : β) :
    (m.insertNew name value).Lists (names ++ [name])
      fun other => if other = name ∧ name ∉ names then some value else value? other := by
  have hcontains : m.contains name = true ↔ name ∈ names := by
    rw [contains_iff_mem_keys, h.mem_keys_iff]
  by_cases hname : name ∈ names
  · rw [OrderedMap.insertNew, if_pos (hcontains.mpr hname)]
    constructor
    · rw [eraseDups_append_singleton, if_pos hname, h.keys]
    · intro other
      rw [h.get?, if_neg fun hnew => hnew.2 hname]
  · rw [OrderedMap.insertNew, if_neg fun hmem => hname (hcontains.mp hmem)]
    have hinsert := h.insert name value
    refine ⟨hinsert.keys, fun other => ?_⟩
    rw [hinsert.get?]
    simp [hname]

/-- A write, where names without a write share a value. -/
theorem insert_valueOr {shared : β} {writes : List (α × β)}
    (h : m.Lists names (valueOr shared names writes)) (name : α) (value : β) :
    (m.insert name value).Lists (names ++ [name])
      (valueOr shared (names ++ [name]) (writes ++ [(name, value)])) := by
  have hinsert := h.insert name value
  refine ⟨hinsert.keys, fun other => ?_⟩
  rw [hinsert.get?, valueOr, valueOr, lastValue_append]
  by_cases hother : other = name
  · simp [hother]
  · simp [hother]

/-- A write of the shared value to a new key only. -/
theorem insertNew_valueOr {shared : β} {writes : List (α × β)}
    (h : m.Lists names (valueOr shared names writes)) (name : α) :
    (m.insertNew name shared).Lists (names ++ [name])
      (valueOr shared (names ++ [name]) writes) := by
  have hinsert := h.insertNew name shared
  refine ⟨hinsert.keys, fun other => ?_⟩
  rw [hinsert.get?]
  by_cases hother : other ∈ names
  · have hold : ¬ (other = name ∧ name ∉ names) := fun hnew => hnew.2 (hnew.1 ▸ hother)
    simp [hold, valueOr, hother]
  · have hnone := h.value?_of_not_mem hother
    rw [valueOr, Option.or_eq_none_iff] at hnone
    by_cases hname : other = name
    · subst hname
      simp [valueOr, hother, hnone.1]
    · simp [valueOr, hname, hother, hnone.1]

/-- A map that lists writes: the names and the last values of the writes. -/
theorem insert_writes {writes : List (α × β)}
    (h : m.Lists (writes.map Prod.fst) (lastValue writes)) (name : α) (value : β) :
    (m.insert name value).Lists ((writes ++ [(name, value)]).map Prod.fst)
      (lastValue (writes ++ [(name, value)])) := by
  have hinsert := h.insert name value
  refine ⟨by simpa using hinsert.keys, fun other => ?_⟩
  rw [hinsert.get?, lastValue_append]

/-- A map is told by what it lists. -/
theorem eq {n : OrderedMap α β} (hm : m.Lists names value?) (hn : n.Lists names value?) :
    m = n := by
  have hentries : m.entries = n.entries := by
    rw [entries_eq_filterMap (hm.keys ▸ nodup_eraseDups names),
      entries_eq_filterMap (hn.keys ▸ nodup_eraseDups names), hm.keys, hn.keys]
    refine List.filterMap_congr fun name _ => ?_
    rw [hm.get?, hn.get?]
  cases m
  cases n
  exact congrArg OrderedMap.mk hentries

end Lists
end OrderedMap
end RequestScript
