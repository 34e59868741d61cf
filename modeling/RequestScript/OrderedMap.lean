/-!
# Ordered maps

Headers, parameters, variables, log fields and settings are small maps whose order
shows in the output.  An ordered map lists its entries in the order in which
their keys first came in: writing to a key that is present changes its value and
keeps its place.

Main results:

- Theorem {lit}`get?_insert_self` and theorem {lit}`get?_insert_of_ne`: what a
  write does to every look-up.
- Theorem {lit}`keys_insert_of_mem` and theorem {lit}`keys_insert_of_not_mem`:
  what a write does to the order.
- Theorem {lit}`nodup_keys_insert`: no key is listed twice.
- Theorem {lit}`mem_entries_insert`: no write adds an entry but its own.
-/

namespace RequestScript

/-- A map that remembers the order in which its keys came in. -/
structure OrderedMap (α β : Type) where
  entries : List (α × β)
deriving DecidableEq, Repr

namespace OrderedMap

variable {α β : Type}

/-- The map without entries. -/
def empty : OrderedMap α β := ⟨[]⟩

instance : EmptyCollection (OrderedMap α β) := ⟨empty⟩

instance : Inhabited (OrderedMap α β) := ⟨empty⟩

/-- The keys, in order. -/
def keys (m : OrderedMap α β) : List α :=
  m.entries.map Prod.fst

/-- Whether the map has no entries. -/
def isEmpty (m : OrderedMap α β) : Bool :=
  m.entries.isEmpty

@[simp]
theorem entries_empty : (∅ : OrderedMap α β).entries = [] := rfl

@[simp]
theorem keys_empty : (∅ : OrderedMap α β).keys = [] := rfl

variable [DecidableEq α]

/-- The value at a key. -/
def get? (m : OrderedMap α β) (key : α) : Option β :=
  m.entries.lookup key

/-- Whether a key is present. -/
def contains (m : OrderedMap α β) (key : α) : Bool :=
  m.entries.any fun entry => entry.1 = key

/-- Write to a key in a list of entries. -/
def insertEntry (key : α) (value : β) : List (α × β) → List (α × β)
  | [] => [(key, value)]
  | entry :: rest =>
    if entry.1 = key then (key, value) :: rest else entry :: insertEntry key value rest

/-- Write to a key: a present key keeps its place, a new one comes last. -/
def insert (m : OrderedMap α β) (key : α) (value : β) : OrderedMap α β :=
  ⟨insertEntry key value m.entries⟩

/-- Write to a key unless it is present. -/
def insertNew (m : OrderedMap α β) (key : α) (value : β) : OrderedMap α β :=
  if m.contains key then m else m.insert key value

/-- Write all entries of a second map, in its order. -/
def merge (m n : OrderedMap α β) : OrderedMap α β :=
  n.entries.foldl (fun acc entry => acc.insert entry.1 entry.2) m

/-- The map that a list of writes builds. -/
def ofList (writes : List (α × β)) : OrderedMap α β :=
  writes.foldl (fun acc entry => acc.insert entry.1 entry.2) ∅

/-! ## What a write does -/

/-- A written key is found with its value. -/
theorem lookup_insertEntry_self (key : α) (value : β) (entries : List (α × β)) :
    (insertEntry key value entries).lookup key = some value := by
  induction entries with
  | nil => simp [insertEntry]
  | cons entry rest ih =>
    obtain ⟨k, v⟩ := entry
    by_cases h : k = key
    · simp [insertEntry, h]
    · have hk : (key == k) = false := by simpa using fun e => h e.symm
      simp [insertEntry, h, List.lookup_cons, hk, ih]

/-- Other keys are found as they were. -/
theorem lookup_insertEntry_of_ne {key other : α} (h : other ≠ key) (value : β)
    (entries : List (α × β)) :
    (insertEntry key value entries).lookup other = entries.lookup other := by
  have hk : (other == key) = false := by simpa using h
  induction entries with
  | nil => simp [insertEntry, List.lookup_cons, hk]
  | cons entry rest ih =>
    obtain ⟨k, v⟩ := entry
    by_cases he : k = key
    · subst he
      simp [insertEntry, List.lookup_cons, hk]
    · simp only [insertEntry, he, if_false, List.lookup_cons]
      cases other == k <;> simp [ih]

@[simp]
theorem get?_empty (key : α) : (∅ : OrderedMap α β).get? key = none := rfl

@[simp]
theorem get?_insert_self (m : OrderedMap α β) (key : α) (value : β) :
    (m.insert key value).get? key = some value :=
  lookup_insertEntry_self key value m.entries

/-- A write of one key leaves the values of the others. -/
theorem get?_insert_of_ne (m : OrderedMap α β) {key other : α} (h : other ≠ key) (value : β) :
    (m.insert key value).get? other = m.get? other :=
  lookup_insertEntry_of_ne h value m.entries

/-- A map contains the keys that it lists. -/
theorem contains_iff_mem_keys (m : OrderedMap α β) (key : α) :
    m.contains key = true ↔ key ∈ m.keys := by
  simp [contains, keys]

/-- A write keeps the places of the keys, and puts a new key last. -/
theorem map_fst_insertEntry (key : α) (value : β) (entries : List (α × β)) :
    (insertEntry key value entries).map Prod.fst =
      if key ∈ entries.map Prod.fst then entries.map Prod.fst
      else entries.map Prod.fst ++ [key] := by
  induction entries with
  | nil => simp [insertEntry]
  | cons entry rest ih =>
    by_cases h : entry.1 = key
    · simp [insertEntry, h]
    · have h' : ¬ key = entry.1 := fun e => h e.symm
      simp only [insertEntry, h, if_false, List.map_cons, ih, List.mem_cons, h', false_or]
      split <;> simp

/-- Writing to a present key keeps the order of the keys. -/
theorem keys_insert_of_mem {m : OrderedMap α β} {key : α} (h : key ∈ m.keys) (value : β) :
    (m.insert key value).keys = m.keys :=
  (map_fst_insertEntry key value m.entries).trans (if_pos h)

/-- A new key comes last. -/
theorem keys_insert_of_not_mem {m : OrderedMap α β} {key : α} (h : key ∉ m.keys) (value : β) :
    (m.insert key value).keys = m.keys ++ [key] :=
  (map_fst_insertEntry key value m.entries).trans (if_neg h)

/-- Writes never list a key twice. -/
theorem nodup_keys_insert {m : OrderedMap α β} (h : m.keys.Nodup) (key : α) (value : β) :
    (m.insert key value).keys.Nodup := by
  by_cases hk : key ∈ m.keys
  · rwa [keys_insert_of_mem hk]
  · rw [keys_insert_of_not_mem hk, List.nodup_append]
    refine ⟨h, by simp, ?_⟩
    intro a ha b hb
    rw [List.mem_singleton.1 hb]
    exact fun e => hk (e ▸ ha)

/-- A write adds its own key only. -/
theorem mem_keys_insert {m : OrderedMap α β} {key other : α} {value : β} :
    other ∈ (m.insert key value).keys ↔ other = key ∨ other ∈ m.keys := by
  by_cases hk : key ∈ m.keys
  · rw [keys_insert_of_mem hk]
    exact (or_iff_right_of_imp fun e => e ▸ hk).symm
  · rw [keys_insert_of_not_mem hk, List.mem_append, List.mem_singleton, or_comm]

/-- An entry after a write is the written one or stood there before. -/
theorem mem_of_mem_insertEntry {key : α} {value : β} {entries : List (α × β)} {entry : α × β}
    (h : entry ∈ insertEntry key value entries) : entry = (key, value) ∨ entry ∈ entries := by
  induction entries with
  | nil => exact Or.inl (List.mem_singleton.1 h)
  | cons first rest ih =>
    rw [insertEntry] at h
    split at h
    · rcases List.mem_cons.1 h with rfl | hrest
      · exact Or.inl rfl
      · exact Or.inr (List.mem_cons_of_mem first hrest)
    · rcases List.mem_cons.1 h with rfl | hrest
      · exact Or.inr List.mem_cons_self
      · exact (ih hrest).imp_right (List.mem_cons_of_mem first)

/-- A write adds no entry but its own. -/
theorem mem_entries_insert {m : OrderedMap α β} {key : α} {value : β} {entry : α × β}
    (h : entry ∈ (m.insert key value).entries) : entry = (key, value) ∨ entry ∈ m.entries :=
  mem_of_mem_insertEntry h

/-- A rule that all entries fulfil is kept by the write of an entry that fulfils it. -/
theorem forall_mem_insert {m : OrderedMap α β} {p : α × β → Prop}
    (h : ∀ entry ∈ m.entries, p entry) {key : α} {value : β} (hnew : p (key, value)) :
    ∀ entry ∈ (m.insert key value).entries, p entry := by
  intro entry hentry
  rcases mem_entries_insert hentry with rfl | hold
  · exact hnew
  · exact h entry hold

/-- A write to a new key only makes the key present, as every write does. -/
theorem mem_keys_insertNew {m : OrderedMap α β} {key other : α} {value : β} :
    other ∈ (m.insertNew key value).keys ↔ other = key ∨ other ∈ m.keys := by
  by_cases hk : key ∈ m.keys
  · rw [insertNew, if_pos ((contains_iff_mem_keys m key).2 hk)]
    exact (or_iff_right_of_imp fun e => e ▸ hk).symm
  · rw [insertNew, if_neg fun hc => hk ((contains_iff_mem_keys m key).1 hc), mem_keys_insert]

end OrderedMap

end RequestScript
