import RequestScript.Event
import RequestScript.Proofs.Merging

/-!
# Fields bound in steps

A logger that binds fields in steps tells what a logger without fields tells when it is given the
sum of all fields with the event.  Only the names differ that the two calls keep for themselves:
a field may be bound under the name {lit}`event`, but no event is told with a field of this name.

Main results:

- Definition {lit}`Logger.bindAll`: a logger that binds maps of fields one after another.
- Definition {lit}`Logger.render`: what comes of an event that a logger tells.
- Theorem {lit}`Logger.bindAll_eq_ok`: such a logger carries the sum of the maps.
- Theorem {lit}`Logger.tell_sum`: what an event tells that is given a sum.
- Theorem {lit}`Logger.renders_at_once`: binding in steps comes to the same as telling at once.
-/

namespace RequestScript

open OrderedMap

/-- What comes of an event: the line that is printed, and the message with the fields that go
with it. -/
structure Event.Rendering where
  printed : Text
  message : Text
  attributes : Fields

/-- The rendering of an event. -/
def Event.rendering (event : Event) : Rendering :=
  ⟨Event.records [event], event.summary, event.attributes⟩

namespace Logger

/-! ## Calls -/

/-- A logger that binds maps of fields one after another, unless a name is taken. -/
def bindAll (logger : Logger) : List Fields → Except Clash Logger
  | [] => .ok logger
  | fields :: rest =>
    match Call.bind.clash? fields with
    | some clash => .error clash
    | none => (logger.bind fields).bindAll rest

/-- The event that a logger tells, unless the name of a field is taken. -/
def tell (logger : Logger) (level : Level) (name : Text) (fields : Fields) : Except Clash Event :=
  match (Call.tell level).clash? fields with
  | some clash => .error clash
  | none => .ok (logger.event level name fields)

/-- What comes of an event that a logger tells. -/
def render (logger : Logger) (level : Level) (name : Text) (fields : Fields) :
    Except Clash Event.Rendering :=
  (logger.tell level name fields).map Event.rendering

section Clash

variable {call : Call} {fields : Fields} {level : Level}

theorem clash?_eq_none_iff :
    call.clash? fields = none ↔ ∀ name ∈ fields.keys, name ∉ call.takenNames := by
  simp [Call.clash?]

theorem clash?_bind_eq_none_iff :
    Call.bind.clash? fields = none ↔ "self".toList ∉ fields.keys := by
  rw [clash?_eq_none_iff]
  simp only [Call.takenNames, List.mem_singleton]
  exact ⟨fun h hmem => h _ hmem rfl, fun h name hname heq => h (heq ▸ hname)⟩

theorem clash?_tell_eq_none_iff :
    (Call.tell level).clash? fields = none ↔
      "self".toList ∉ fields.keys ∧ "event".toList ∉ fields.keys := by
  rw [clash?_eq_none_iff]
  simp only [Call.takenNames, List.mem_cons, List.not_mem_nil, or_false, not_or]
  constructor
  · intro h
    exact ⟨fun hmem => (h _ hmem).1 rfl, fun hmem => (h _ hmem).2 rfl⟩
  · rintro ⟨hself, hevent⟩ name hname
    exact ⟨fun heq => hself (heq ▸ hname), fun heq => hevent (heq ▸ hname)⟩

/-- Among fields that may be bound, only one of the name {lit}`event` clashes with the telling of
an event. -/
theorem clash?_tell_of_mem (hself : "self".toList ∉ fields.keys)
    (hevent : "event".toList ∈ fields.keys) :
    (Call.tell level).clash? fields = some ⟨.tell level, "event".toList⟩ := by
  have hfind : (fields.keys.find? fun name => (Call.tell level).takenNames.contains name) =
      some "event".toList := by
    cases hfound : fields.keys.find? fun name => (Call.tell level).takenNames.contains name with
    | none =>
      have hnone := List.find?_eq_none.mp hfound _ hevent
      simp [Call.takenNames] at hnone
    | some name =>
      have htaken := List.find?_some hfound
      have hmem := List.mem_of_find?_eq_some hfound
      simp only [Call.takenNames, List.contains_cons, List.contains_nil, Bool.or_false,
        Bool.or_eq_true, beq_iff_eq] at htaken
      rcases htaken with rfl | rfl
      · exact absurd hmem hself
      · rfl
  rw [Call.clash?, hfind]
  rfl

end Clash

/-! ## Binding -/

/-- A logger that binds maps carries all of them, merged one after another. -/
theorem bindAll_eq_ok {logger last : Logger} {maps : List Fields} :
    logger.bindAll maps = .ok last ↔
      (∀ fields ∈ maps, "self".toList ∉ fields.keys) ∧
        last.bound = maps.foldl merge logger.bound := by
  induction maps generalizing logger with
  | nil =>
    rcases logger with ⟨bound⟩
    rcases last with ⟨carried⟩
    simp [bindAll, eq_comm]
  | cons fields maps ih =>
    rw [bindAll, List.forall_mem_cons, List.foldl_cons]
    cases hclash : Call.bind.clash? fields with
    | none =>
      rw [ih, bind_bound, and_iff_right (clash?_bind_eq_none_iff.mp hclash)]
    | some clash =>
      have hself : ¬ "self".toList ∉ fields.keys := by
        rw [← clash?_bind_eq_none_iff, hclash]
        exact Option.some_ne_none clash
      exact ⟨nofun, fun h => absurd h.1.1 hself⟩

variable {maps : List Fields} {last : Logger}

theorem bindAll_empty_eq_ok :
    ({} : Logger).bindAll maps = .ok last ↔
      (∀ fields ∈ maps, "self".toList ∉ fields.keys) ∧ last.bound = sum maps := by
  rw [bindAll_eq_ok, ← foldl_merge_empty]

/-- Maps of fields with the same sum may be bound for each other. -/
theorem bindAll_congr (h : ({} : Logger).bindAll maps = .ok last) {others : List Fields}
    (hsum : sum others = sum maps) : ({} : Logger).bindAll others = .ok last := by
  rw [bindAll_empty_eq_ok] at h ⊢
  refine ⟨?_, h.2.trans hsum.symm⟩
  intro fields hfields hself
  have hmem : "self".toList ∈ (sum maps).keys := hsum ▸ mem_keys_sum.mpr ⟨fields, hfields, hself⟩
  rcases mem_keys_sum.mp hmem with ⟨bound, hbound, hin⟩
  exact h.1 bound hbound hin

/-! ## Telling -/

/-- An event that is told with the sum of some fields carries what a logger that has bound all of
them but the last tells with the last. -/
theorem event_sum (h : last.bound = sum maps) (level : Level) (name : Text) (fields : Fields) :
    ({} : Logger).event level name (sum (maps ++ [fields])) = last.event level name fields := by
  have hsum : (∅ : Fields).merge (sum (maps ++ [fields])) = last.bound.merge fields := by
    rw [merge_sum, foldl_merge_empty, sum_append_singleton, h]
  exact congrArg (Event.mk level name) hsum

/-- An event that is told with the sum of some fields, which have been bound but for the last of
them. -/
theorem tell_sum (hbind : ({} : Logger).bindAll maps = .ok last) {level : Level} {fields : Fields}
    (hcall : (Call.tell level).clash? fields = none) (name : Text) :
    ({} : Logger).tell level name (sum (maps ++ [fields])) =
      if ∃ map ∈ maps, "event".toList ∈ map.keys then .error ⟨.tell level, "event".toList⟩
      else .ok (last.event level name fields) := by
  rw [bindAll_empty_eq_ok] at hbind
  rw [clash?_tell_eq_none_iff] at hcall
  have hself : "self".toList ∉ (sum (maps ++ [fields])).keys := by
    rw [mem_keys_sum]
    rintro ⟨map, hmap, hin⟩
    rcases List.mem_append.mp hmap with hbound | hlast
    · exact hbind.1 map hbound hin
    · exact hcall.1 (List.mem_singleton.mp hlast ▸ hin)
  have hevent : "event".toList ∈ (sum (maps ++ [fields])).keys ↔
      ∃ map ∈ maps, "event".toList ∈ map.keys := by
    simp only [mem_keys_sum, List.mem_append, List.mem_singleton, or_and_right, exists_or,
      exists_eq_left, or_iff_left hcall.2]
  rw [tell]
  split_ifs with hbound
  · rw [clash?_tell_of_mem hself (hevent.mpr hbound)]
  · rw [clash?_tell_eq_none_iff.mpr ⟨hself, fun hin => hbound (hevent.mp hin)⟩,
      event_sum hbind.2]

/-- Binding fields in steps comes to the same as telling them all at once.  The fields that are
told at once list all names in the order in which they first occur, with their last values, and
what comes of the event is the same, unless a field of the name {lit}`event` has been bound, with
which no event is told.  How the fields are grouped makes no difference: the logger is the same
when they are cut into maps in other places, and when groups of maps are bound by their sums. -/
theorem renders_at_once (hbind : ({} : Logger).bindAll maps = .ok last) {level : Level}
    {fields : Fields} (hcall : (Call.tell level).clash? fields = none) (name : Text) :
    (sum (maps ++ [fields])).Lists (((maps ++ [fields]).flatMap entries).map Prod.fst)
        (lastValue ((maps ++ [fields]).flatMap entries)) ∧
      (∃ rendering, last.render level name fields = .ok rendering ∧
        ({} : Logger).render level name (sum (maps ++ [fields])) =
          if ∃ map ∈ maps, "event".toList ∈ map.keys then .error ⟨.tell level, "event".toList⟩
          else .ok rendering) ∧
      (∀ others : List Fields, others.flatMap entries = maps.flatMap entries →
        ({} : Logger).bindAll others = .ok last) ∧
      ∀ groups : List (List Fields), groups.flatten = maps →
        ({} : Logger).bindAll (groups.map sum) = .ok last := by
  refine ⟨lists_sum _, ⟨(last.event level name fields).rendering, ?_, ?_⟩, ?_, ?_⟩
  · rw [render, tell, hcall]
    rfl
  · rw [render, tell_sum hbind hcall]
    split_ifs <;> rfl
  · intro others hothers
    exact bindAll_congr hbind (congrArg ofList hothers)
  · rintro groups rfl
    exact bindAll_congr hbind (sum_map_sum groups)

/-- A name that is bound twice stands at its first place with its last value, and a field of the
name {lit}`level` is not replaced. -/
theorem renders_at_once_level :
    let maps : List Fields := [⟨[("a".toList, .int 1), ("type".toList, .text "t".toList)]⟩,
      ⟨[("a".toList, .int 2)]⟩]
    let fields : Fields := ⟨[("b".toList, .int 4), ("level".toList, .text "x".toList)]⟩
    ∃ last rendering, ({} : Logger).bindAll maps = .ok last ∧
      last.render .info "e".toList fields = .ok rendering ∧
      ({} : Logger).render .info "e".toList (sum (maps ++ [fields])) = .ok rendering ∧
      rendering.printed =
        "e \x7b\"a\": 2, \"type\": \"t\", \"b\": 4, \"level\": \"x\"\x7d\n".toList ∧
      rendering.message = "e a=2 type=t b=4 level=x".toList := by
  intro maps fields
  have hbind : ({} : Logger).bindAll maps = .ok ⟨sum maps⟩ := rfl
  have hcall : (Call.tell .info).clash? fields = none := rfl
  have hevent : ¬ ∃ map ∈ maps, "event".toList ∈ map.keys := by decide
  rcases (renders_at_once hbind hcall "e".toList).2.1 with ⟨rendering, hlast, honce⟩
  rw [if_neg hevent] at honce
  refine ⟨_, rendering, hbind, hlast, honce, ?_⟩
  cases hlast
  decide

/-- A field of the name {lit}`event` may be bound, but no event is told with it. -/
theorem not_renders_at_once_event :
    ¬ ∀ (maps : List Fields) (last : Logger) (level : Level) (name : Text) (fields : Fields),
      ({} : Logger).bindAll maps = .ok last → (Call.tell level).clash? fields = none →
        last.render level name fields =
          ({} : Logger).render level name (sum (maps ++ [fields])) := by
  intro h
  have hrender := h [⟨[("event".toList, .int 1)]⟩] ⟨⟨[("event".toList, .int 1)]⟩⟩ .info "e".toList
    ∅ rfl rfl
  cases hrender

end Logger

end RequestScript
