import RequestScript.Proofs.Writes

/-!
# Merging ordered maps

To merge a map into another one is to repeat its writes.  A map that several writes have built
may therefore be merged at once, and comes to the same as its writes one by one: a key keeps the
place of its first write and has the value of its last.  So merging is associative, and many maps
have one sum, in whatever groups they are added up.

Main results:

- Theorem {lit}`OrderedMap.merge_insert`: a map with one more write is merged by one more write.
- Theorem {lit}`OrderedMap.merge_ofList`: a map is merged like the writes that have built it.
- Definition {lit}`OrderedMap.sum`: the map that the writes of several maps build.
- Theorem {lit}`OrderedMap.sum_map_sum`: sums of groups add up to the sum of all.
- Theorem {lit}`OrderedMap.lists_sum`: what a sum lists.
-/

namespace RequestScript.OrderedMap

variable {α β : Type} [DecidableEq α]

/-! ## Two writes -/

/-- A second write to a key hides the first. -/
theorem insert_insert_self (m : OrderedMap α β) (key : α) (first second : β) :
    (m.insert key first).insert key second = m.insert key second := by
  have hentries : ∀ entries : List (α × β),
      insertEntry key second (insertEntry key first entries) = insertEntry key second entries := by
    intro entries
    induction entries with
    | nil => simp [insertEntry]
    | cons entry entries ih =>
      by_cases h : entry.1 = key
      · simp [insertEntry, h]
      · rw [insertEntry, if_neg h, insertEntry, if_neg h, ih, insertEntry, if_neg h]
  exact congrArg OrderedMap.mk (hentries m.entries)

/-- A write to a key that is present may be made before or after a write to another key. -/
theorem insert_comm_of_mem {m : OrderedMap α β} {key other : α} (hmem : key ∈ m.keys)
    (hne : other ≠ key) (value written : β) :
    (m.insert other written).insert key value = (m.insert key value).insert other written := by
  have hentries : ∀ entries : List (α × β), key ∈ entries.map Prod.fst →
      insertEntry key value (insertEntry other written entries) =
        insertEntry other written (insertEntry key value entries) := by
    intro entries hkey
    induction entries with
    | nil => cases hkey
    | cons entry entries ih =>
      by_cases hfirst : entry.1 = key
      · simp [insertEntry, hfirst, Ne.symm hne]
      · have hrest : key ∈ entries.map Prod.fst := by
          rw [List.map_cons, List.mem_cons] at hkey
          exact hkey.resolve_left fun e => hfirst e.symm
        by_cases hother : entry.1 = other
        · simp [insertEntry, hother, hne]
        · rw [insertEntry, if_neg hother, insertEntry, if_neg hfirst, ih hrest, insertEntry,
            if_neg hfirst, insertEntry, if_neg hother]
  exact congrArg OrderedMap.mk (hentries m.entries hmem)

/-! ## Merging -/

@[simp]
theorem merge_nil (m : OrderedMap α β) : m.merge ⟨[]⟩ = m := rfl

/-- Entries are merged one after another. -/
theorem merge_cons (m : OrderedMap α β) (key : α) (value : β) (entries : List (α × β)) :
    m.merge ⟨(key, value) :: entries⟩ = (m.insert key value).merge ⟨entries⟩ := rfl

/-- Entries are merged in two parts. -/
theorem merge_append (m : OrderedMap α β) (writes later : List (α × β)) :
    m.merge ⟨writes ++ later⟩ = (m.merge ⟨writes⟩).merge ⟨later⟩ :=
  List.foldl_append

/-- A write to a key that is present and is not written by a map may be made before the map is
merged, or after it. -/
theorem merge_insert_comm {m : OrderedMap α β} {key : α} {entries : List (α × β)}
    (hmem : key ∈ m.keys) (hnew : key ∉ entries.map Prod.fst) (value : β) :
    (m.merge ⟨entries⟩).insert key value = (m.insert key value).merge ⟨entries⟩ := by
  induction entries generalizing m with
  | nil => rfl
  | cons entry entries ih =>
    rcases entry with ⟨other, written⟩
    rw [List.map_cons, List.mem_cons, not_or] at hnew
    have hkept : key ∈ (m.insert other written).keys := mem_keys_insert.mpr (Or.inr hmem)
    rw [merge_cons, merge_cons, ih hkept hnew.2, insert_comm_of_mem hmem (Ne.symm hnew.1)]

/-- A map with one more write is merged by one more write. -/
theorem merge_insert (m : OrderedMap α β) {n : OrderedMap α β} (h : n.keys.Nodup) (key : α)
    (value : β) : m.merge (n.insert key value) = (m.merge n).insert key value := by
  rcases n with ⟨entries⟩
  change m.merge ⟨insertEntry key value entries⟩ = _
  dsimp only [keys] at h
  induction entries generalizing m with
  | nil => rfl
  | cons entry entries ih =>
    rcases entry with ⟨first, written⟩
    rw [List.map_cons, List.nodup_cons] at h
    by_cases hfirst : first = key
    · -- the key is written first, and what follows does not write to it again
      subst hfirst
      have hmem : first ∈ (m.insert first written).keys := mem_keys_insert.mpr (Or.inl rfl)
      rw [insertEntry, if_pos rfl, merge_cons, merge_cons, merge_insert_comm hmem h.1,
        insert_insert_self]
    · rw [insertEntry, if_neg hfirst, merge_cons, merge_cons, ih (m.insert first written) h.2]

/-- A last write is done last. -/
theorem ofList_append_singleton (writes : List (α × β)) (key : α) (value : β) :
    ofList (writes ++ [(key, value)]) = (ofList writes).insert key value :=
  List.foldl_append

/-- A map is merged like the writes that have built it. -/
theorem merge_ofList (m : OrderedMap α β) (writes : List (α × β)) :
    m.merge (ofList writes) = m.merge ⟨writes⟩ := by
  induction writes using List.reverseRecOn with
  | nil => rfl
  | append_singleton writes write ih =>
    rcases write with ⟨key, value⟩
    rw [ofList_append_singleton, merge_insert m (nodup_keys_ofList writes), ih, merge_append]
    rfl

/-! ## Sums -/

/-- The map that the writes of several maps build, one map after another. -/
def sum (maps : List (OrderedMap α β)) : OrderedMap α β :=
  ofList (maps.flatMap entries)

theorem merge_flatMap (m : OrderedMap α β) (maps : List (OrderedMap α β)) :
    m.merge ⟨maps.flatMap entries⟩ = maps.foldl merge m := by
  induction maps generalizing m with
  | nil => rfl
  | cons n maps ih =>
    rw [List.flatMap_cons, merge_append, ih]
    rfl

/-- To merge a sum is to merge its parts, one after another. -/
theorem merge_sum (m : OrderedMap α β) (maps : List (OrderedMap α β)) :
    m.merge (sum maps) = maps.foldl merge m := by
  rw [sum, merge_ofList, merge_flatMap]

theorem foldl_merge_empty (maps : List (OrderedMap α β)) : maps.foldl merge ∅ = sum maps :=
  (merge_flatMap ∅ maps).symm

theorem sum_append_singleton (maps : List (OrderedMap α β)) (m : OrderedMap α β) :
    sum (maps ++ [m]) = (sum maps).merge m := by
  rw [← foldl_merge_empty, ← foldl_merge_empty, List.foldl_append]
  rfl

/-- Sums of groups add up to the sum of all. -/
theorem sum_map_sum (groups : List (List (OrderedMap α β))) :
    sum (groups.map sum) = sum groups.flatten := by
  have hmerge : ∀ m : OrderedMap α β,
      (groups.map sum).foldl merge m = groups.flatten.foldl merge m := by
    intro m
    induction groups generalizing m with
    | nil => rfl
    | cons group groups ih =>
      rw [List.map_cons, List.foldl_cons, List.flatten_cons, List.foldl_append, merge_sum, ih]
  rw [← foldl_merge_empty, ← foldl_merge_empty, hmerge]

/-- The map that writes build lists their names in the order in which they first occur, with
their last values. -/
theorem lists_ofList (writes : List (α × β)) :
    (ofList writes).Lists (writes.map Prod.fst) (lastValue writes) := by
  induction writes using List.reverseRecOn with
  | nil => exact lists_empty
  | append_singleton writes write ih =>
    rcases write with ⟨key, value⟩
    rw [ofList_append_singleton]
    exact ih.insert_writes key value

/-- A sum lists the names of all its parts in the order in which they first occur, with their
last values. -/
theorem lists_sum (maps : List (OrderedMap α β)) :
    (sum maps).Lists ((maps.flatMap entries).map Prod.fst) (lastValue (maps.flatMap entries)) :=
  lists_ofList (maps.flatMap entries)

/-- A sum has the keys of all its maps. -/
theorem mem_keys_sum {maps : List (OrderedMap α β)} {key : α} :
    key ∈ (sum maps).keys ↔ ∃ m ∈ maps, key ∈ m.keys := by
  rw [(lists_sum maps).mem_keys_iff, List.map_flatMap, List.mem_flatMap]
  rfl

end RequestScript.OrderedMap
