import RequestScript.Proofs.Files.Selection
import RequestScript.Yaml.Meaning

/-!
# Keys of loaded mappings

No loaded mapping holds two entries with equal keys, and all its keys are scalars.  Every entry
of a mapping is put next to the entries before it, which keeps this, and a collection is filled
only once it is complete: no other step of valuing looks at what collections are filled with.

Main results:

- Definition {lit}`Keyed`: entries with distinct keys that are scalars.
- Definition {lit}`Build.Gives`: what a step of valuing gives while it fills no collection.
- Theorem {lit}`Build.gives_mapping`: the entries of a mapping are keyed.
- Theorem {lit}`keyed_of_load`: the mappings of a loaded document are.
-/

namespace RequestScript.Yaml

/-- Entries with distinct keys, all of them scalars. -/
structure Keyed (entries : List (Datum × Datum)) : Prop where
  scalar : ∀ entry ∈ entries, entry.1.isKey = true
  distinct : entries.Pairwise fun entry later => sameKey entry.1 later.1 = false

theorem keyed_nil : Keyed [] :=
  ⟨nofun, List.Pairwise.nil⟩

/-- Entries are keyed exactly when the first key is a scalar, no later key equals it, and the others
are keyed. -/
theorem keyed_cons {entry : Datum × Datum} {entries : List (Datum × Datum)} :
    Keyed (entry :: entries) ↔
      entry.1.isKey = true ∧ (∀ later ∈ entries, sameKey entry.1 later.1 = false) ∧
        Keyed entries := by
  constructor
  · rintro ⟨hscalar, hdistinct⟩
    rw [List.forall_mem_cons] at hscalar
    rw [List.pairwise_cons] at hdistinct
    exact ⟨hscalar.1, hdistinct.1, hscalar.2, hdistinct.2⟩
  · rintro ⟨hkey, hnew, hscalar, hdistinct⟩
    exact ⟨List.forall_mem_cons.mpr ⟨hkey, hscalar⟩, List.pairwise_cons.mpr ⟨hnew, hdistinct⟩⟩

/-- A key of entries that one more has been put to is an old one, or the new one. -/
theorem key_of_mem_putEntry {key value : Datum} {entries : List (Datum × Datum)}
    {entry : Datum × Datum} (h : entry ∈ putEntry key value entries) :
    (∃ old ∈ entries, entry.1 = old.1) ∨ entry.1 = key := by
  induction entries with
  | nil =>
    rw [List.mem_singleton.mp h]
    exact Or.inr rfl
  | cons first entries ih =>
    rw [putEntry] at h
    split at h
    · rcases List.mem_cons.mp h with rfl | hrest
      · exact Or.inl ⟨first, List.mem_cons_self, rfl⟩
      · exact Or.inl ⟨entry, List.mem_cons_of_mem first hrest, rfl⟩
    · rcases List.mem_cons.mp h with rfl | hrest
      · exact Or.inl ⟨entry, List.mem_cons_self, rfl⟩
      · rcases ih hrest with ⟨old, hold, heq⟩ | heq
        · exact Or.inl ⟨old, List.mem_cons_of_mem first hold, heq⟩
        · exact Or.inr heq

/-- Entries stay keyed when one more is put to them: an equal key is replaced where it stands. -/
theorem Keyed.putEntry {key : Datum} (hkey : key.isKey = true) (value : Datum)
    {entries : List (Datum × Datum)} (h : Keyed entries) : Keyed (putEntry key value entries) := by
  induction entries with
  | nil => exact keyed_cons.mpr ⟨hkey, nofun, keyed_nil⟩
  | cons first entries ih =>
    rcases keyed_cons.mp h with ⟨hfirst, hnew, hrest⟩
    rw [Yaml.putEntry]
    split
    · exact keyed_cons.mpr ⟨hfirst, hnew, hrest⟩
    · rename_i hother
      refine keyed_cons.mpr ⟨hfirst, ?_, ih hrest⟩
      intro later hlater
      rcases key_of_mem_putEntry hlater with ⟨old, hold, heq⟩ | heq
      · exact heq ▸ hnew old hold
      · exact heq ▸ Bool.eq_false_iff.mpr hother

/-- A collection that is filled with a mapping is filled with keyed entries. -/
def Filling.Sound : Filling → Prop
  | .map entries => Keyed entries
  | _ => True

namespace Build

/-! ## Steps that fill no collection -/

variable {α β : Type}

/-- A step fills no collection, and what it gives has a property. -/
def Gives (step : Build α) (property : α → Prop) : Prop :=
  ∀ before result after, step.run before = .ok (result, after) →
    property result ∧ after.fillings = before.fillings

/-- A step fills no collection. -/
def Keeps (step : Build α) : Prop :=
  step.Gives fun _ => True

/-- A result that is given at once has what it is known to have. -/
theorem Gives.pure {property : α → Prop} {result : α} (h : property result) :
    Gives (pure result) property := by
  intro before found after hrun
  cases hrun
  exact ⟨h, rfl⟩

/-- What holds of the first result is at hand for the step after it. -/
theorem Gives.bind {step : Build α} {next : α → Build β} {property : α → Prop}
    {later : β → Prop} (hstep : Gives step property)
    (hnext : ∀ result, property result → Gives (next result) later) :
    Gives (step >>= next) later := by
  intro before result after hrun
  rw [StateT.run_bind] at hrun
  cases hfirst : step.run before with
  | error fault =>
    rw [hfirst] at hrun
    cases hrun
  | ok given =>
    rw [hfirst] at hrun
    rcases hstep before given.1 given.2 hfirst with ⟨hproperty, hkept⟩
    rcases hnext given.1 hproperty given.2 result after hrun with ⟨hlater, hafter⟩
    exact ⟨hlater, hafter.trans hkept⟩

/-- What every round of a fold gives back holds of the last result. -/
theorem Gives.foldlM {property : β → Prop} {step : β → α → Build β}
    (h : ∀ given item, property given → Gives (step given item) property) {start : β}
    (hstart : property start) (items : List α) : Gives (items.foldlM step start) property := by
  induction items generalizing start with
  | nil => exact Gives.pure hstart
  | cons item items ih =>
    rw [List.foldlM_cons]
    exact Gives.bind (h start item hstart) fun given hgiven => ih hgiven

/-- A step that may fail before it starts need only be looked at where it does not. -/
theorem Gives.unless {property : α → Prop} {stop : Prop} [Decidable stop]
    {next : PUnit → Build α} (h : ¬ stop → Gives (next ⟨⟩) property) :
    Gives (if stop then fail >>= next else next ⟨⟩) property := by
  split
  · exact nofun
  · rename_i hgo
    exact h hgo

theorem Keeps.pure (result : α) : Keeps (pure result) :=
  Gives.pure trivial

theorem Keeps.throw (fault : Fault) : Keeps (throw fault : Build α) := by
  intro before result after hrun
  cases hrun

theorem Keeps.get : Keeps get := by
  intro before result after hrun
  cases hrun
  exact ⟨trivial, rfl⟩

/-- A change of the state that leaves the fillings alone keeps them. -/
theorem Keeps.modify {change : Building → Building}
    (h : ∀ state, (change state).fillings = state.fillings) : Keeps (modify change) := by
  intro before result after hrun
  cases hrun
  exact ⟨trivial, h before⟩

/-- An outcome that needs no state keeps the fillings. -/
theorem Keeps.lift (outcome : Except Fault α) : Keeps (liftM outcome) := by
  intro before result after hrun
  cases outcome with
  | error fault => cases hrun
  | ok given =>
    cases hrun
    exact ⟨trivial, rfl⟩

/-- Whatever else a step gives, it keeps the fillings. -/
theorem Gives.keeps {step : Build α} {property : α → Prop} (h : Gives step property) :
    Keeps step := by
  intro before result after hrun
  exact ⟨trivial, (h before result after hrun).2⟩

/-- Two steps one after another keep the fillings if both do. -/
theorem Keeps.bind {step : Build α} {next : α → Build β} (hstep : Keeps step)
    (hnext : ∀ result, Keeps (next result)) : Keeps (step >>= next) :=
  Gives.bind hstep fun result _ => hnext result

/-- A step that is taken for every item keeps the fillings if it does for one. -/
theorem Keeps.mapM {step : α → Build β} (h : ∀ item, Keeps (step item)) (items : List α) :
    Keeps (items.mapM step) := by
  induction items with
  | nil => exact Keeps.pure []
  | cons item items ih =>
    rw [List.mapM_cons]
    exact Keeps.bind (h item) fun _ => Keeps.bind ih fun _ => Keeps.pure _

/-! ## Valuing -/

/-- Looking up a node fills nothing. -/
theorem keeps_node (id : NodeId) : Keeps (node id) :=
  Keeps.bind Keeps.get fun _ => Keeps.pure _

theorem keeps_setNode (id : NodeId) (node : Node) : Keeps (setNode id node) :=
  Keeps.modify fun _ => rfl

/-- Looking up the entries of a mapping fills nothing. -/
theorem keeps_entriesOf (id : NodeId) : Keeps (entriesOf id) := by
  refine Keeps.bind (keeps_node id) fun node => ?_
  split
  · exact Keeps.pure _
  · exact Keeps.throw _

theorem keeps_setEntries (id : NodeId) (entries : List (NodeId × NodeId)) :
    Keeps (setEntries id entries) :=
  Keeps.bind (keeps_node id) fun _ => keeps_setNode id _

/-- Collecting what a merge key brings in fills nothing. -/
theorem keeps_broughtIn {free : NodeId → Build Unit} (hfree : ∀ id, Keeps (free id))
    (id : NodeId) : Keeps (broughtIn free id) := by
  refine Keeps.bind (keeps_node id) fun node => ?_
  split
  · exact Keeps.bind (hfree id) fun _ => keeps_entriesOf id
  · refine Keeps.bind (Keeps.mapM (fun item => ?_) _) fun _ => Keeps.pure _
    exact Keeps.bind (keeps_entriesOf item) fun _ =>
      Keeps.bind (hfree item) fun _ => keeps_entriesOf item
  · exact Keeps.throw _

/-- Going through the entries of a mapping for its merge keys fills nothing. -/
theorem keeps_takeMerges {free : NodeId → Build Unit} (hfree : ∀ id, Keeps (free id))
    (id : NodeId) (kept brought entries : List (NodeId × NodeId)) :
    Keeps (takeMerges free id kept brought entries) := by
  induction entries generalizing kept brought with
  | nil => exact Keeps.pure _
  | cons entry rest ih =>
    rcases entry with ⟨key, value⟩
    refine Keeps.bind (keeps_node key) fun keyNode => ?_
    split
    · refine Keeps.bind (keeps_setEntries id _) fun _ => ?_
      refine Keeps.bind (keeps_broughtIn hfree value) fun _ => ?_
      refine Keeps.bind (keeps_entriesOf id) fun _ => ?_
      split
      · exact ih _ _
      · exact Keeps.pure _
    · split
      · exact Keeps.bind (keeps_setNode key _) fun _ => ih _ _
      · exact ih _ _

/-- Merge keys are resolved in the nodes, before any collection is filled. -/
theorem keeps_freeOfMerges (fuel : Nat) (id : NodeId) : Keeps (freeOfMerges fuel id) := by
  induction fuel generalizing id with
  | zero => exact Keeps.pure _
  | succ fuel ih =>
    refine Keeps.bind (keeps_entriesOf id) fun entries => ?_
    refine Keeps.bind (keeps_takeMerges ih id [] [] entries) fun brought => ?_
    split
    · exact Keeps.bind (keeps_entriesOf id) fun _ => keeps_setEntries id _
    · exact Keeps.pure _

theorem keeps_entryCount : Keeps entryCount :=
  Keeps.bind Keeps.get fun _ => Keeps.pure _

/-- Valuing a scalar fills nothing. -/
theorem keeps_scalar (id : NodeId) : Keeps (scalar id) := by
  refine Keeps.bind Keeps.get fun state => ?_
  refine Keeps.bind (keeps_node id) fun node => ?_
  refine Gives.unless fun _ => ?_
  refine Keeps.bind (Keeps.lift _) fun text => ?_
  split
  · exact Keeps.throw _
  · exact Keeps.bind (Keeps.lift _) fun _ => Keeps.pure _

/-- Valuing a node fills nothing: a collection is only named here and filled in its turn. -/
theorem keeps_datum (id : NodeId) : Keeps (datum id) := by
  have hstore : ∀ datum, Keeps (do
      modify fun state : Building => { state with data := state.data.setIfInBounds id (some datum) }
      return datum) :=
    fun datum => Keeps.bind (Keeps.modify fun _ => rfl) fun _ => Keeps.pure _
  refine Keeps.bind Keeps.get fun state => ?_
  split
  · exact Keeps.pure _
  · refine Keeps.bind (keeps_node id) fun node => ?_
    split
    · refine Keeps.bind (Keeps.modify fun _ => rfl) fun _ => ?_
      exact Keeps.bind (Keeps.pure _) hstore
    · exact Keeps.bind (keeps_scalar id) hstore

/-- The entries of a mapping are keyed. -/
theorem gives_mapping (id : NodeId) : Gives (mapping id) Keyed := by
  refine Gives.bind (keeps_entriesOf id) fun _ _ => ?_
  refine Gives.bind keeps_entryCount fun count _ => ?_
  refine Gives.bind (keeps_freeOfMerges _ id) fun _ _ => ?_
  refine Gives.bind (keeps_entriesOf id) fun entries _ => ?_
  refine Gives.foldlM (fun given entry hgiven => ?_) keyed_nil entries
  rcases entry with ⟨key, value⟩
  refine Gives.bind (keeps_datum key) fun key _ => ?_
  refine Gives.unless fun hkey => ?_
  rw [Bool.not_eq_true, Bool.not_eq_false'] at hkey
  exact Gives.bind (keeps_datum value) fun datum _ => Gives.pure (hgiven.putEntry hkey datum)

/-- Valuing the items of a sequence fills nothing. -/
theorem keeps_itemsOf (id : NodeId) : Keeps (itemsOf id) := by
  refine Keeps.bind (keeps_node id) fun node => ?_
  split
  · exact Keeps.pure _
  · exact Keeps.throw _

/-- Valuing an entry of an ordered list fills nothing. -/
theorem keeps_pair (id : NodeId) : Keeps (pair id) := by
  refine Keeps.bind (keeps_entriesOf id) fun entries => ?_
  split
  · exact Keeps.bind (keeps_datum _) fun _ => Keeps.bind (keeps_datum _) fun _ => Keeps.pure _
  · exact Keeps.throw _

/-! ## Filling -/

/-- A filling is sound when it is found: the mappings among them are keyed. -/
theorem gives_filling (id : NodeId) : Gives (filling id) Filling.Sound := by
  refine Gives.bind (keeps_node id) fun node _ => ?_
  split
  · exact Gives.bind (gives_mapping id) fun entries hentries => Gives.pure hentries
  · exact Gives.bind (gives_mapping id) fun entries _ => Gives.pure trivial
  · refine Gives.bind (keeps_itemsOf id) fun items _ => ?_
    exact Gives.bind (Keeps.mapM keeps_datum items) fun _ _ => Gives.pure trivial
  · refine Gives.bind (keeps_itemsOf id) fun items _ => ?_
    exact Gives.bind (Keeps.mapM keeps_pair items) fun _ _ => Gives.pure trivial

/-- All collections that are filled with a mapping are filled with keyed entries. -/
def Sound (state : Building) : Prop :=
  ∀ (id : NodeId) (found : Filling), state.fillings[id]? = some (some found) → found.Sound

/-- A step keeps to keyed entries. -/
def Fills (step : Build α) : Prop :=
  ∀ before result after, step.run before = .ok (result, after) → Sound before → Sound after

/-- A step that keeps the fillings leaves sound ones sound. -/
theorem Keeps.fills {step : Build α} (h : Keeps step) : Fills step := by
  intro before result after hrun hsound
  rw [Sound, (h before result after hrun).2]
  exact hsound

/-- Two steps one after another leave sound fillings sound if both do. -/
theorem Fills.bind {step : Build α} {next : α → Build β} (hstep : Fills step)
    (hnext : ∀ result, Fills (next result)) : Fills (step >>= next) := by
  intro before result after hrun hsound
  rw [StateT.run_bind] at hrun
  cases hfirst : step.run before with
  | error fault =>
    rw [hfirst] at hrun
    cases hrun
  | ok given =>
    rw [hfirst] at hrun
    exact hnext given.1 given.2 result after hrun (hstep before given.1 given.2 hfirst hsound)

/-- To fill one collection leaves the fillings sound. -/
theorem fills_fill (id : NodeId) : Fills (fill id) := by
  intro before result after hrun hsound
  rw [fill, StateT.run_bind] at hrun
  cases hfirst : (filling id).run before with
  | error fault =>
    rw [hfirst] at hrun
    cases hrun
  | ok given =>
    rw [hfirst] at hrun
    cases hrun
    rcases gives_filling id before given.1 given.2 hfirst with ⟨hgiven, hkept⟩
    intro other found (hfound : (given.2.fillings.setIfInBounds id (some given.1))[other]? = _)
    rw [hkept, Array.getElem?_setIfInBounds] at hfound
    split at hfound
    · split at hfound
      · cases hfound
        exact hgiven
      · cases hfound
    · exact hsound other found hfound

/-- To fill all collections, one after another, leaves the fillings sound. -/
theorem fills_fillAll (fuel : Nat) : Fills (fillAll fuel) := by
  induction fuel with
  | zero => exact (Keeps.pure _).fills
  | succ fuel ih =>
    refine Fills.bind Keeps.get.fills fun state => ?_
    refine Fills.bind (Keeps.fills (Keeps.modify ?_)) fun _ => ?_
    · exact fun _ => rfl
    have hall : ∀ ids : List NodeId, Fills (ids.forM fill) := by
      intro ids
      induction ids with
      | nil => exact (Keeps.pure _).fills
      | cons id ids hids => exact Fills.bind (fills_fill id) fun _ => hids
    refine Fills.bind (hall _) fun _ => ?_
    split
    · exact ih
    · exact (Keeps.pure _).fills

end Build

/-! ## Documents -/

/-- Every collection of a loaded document is soundly filled. -/
theorem sound_of_graph {document : Document} {graph : Graph} (h : document.graph = .ok graph)
    (id : NodeId) (found : Filling) (hfound : graph.fillings[id]? = some (some found)) :
    found.Sound := by
  rcases except_bind_eq_ok.mp h with ⟨⟨root, state⟩, hrun, hgraph⟩
  cases hgraph
  have hfills : Build.Fills (do
      let root ← Build.datum document.root
      Build.fillAll (document.nodes.size + 1)
      return root) :=
    Build.Fills.bind (Build.keeps_datum _).fills fun _ =>
      Build.Fills.bind (Build.fills_fillAll _) fun _ => (Build.Keeps.pure _).fills
  refine hfills _ root state hrun ?_ id found hfound
  -- at the start nothing is filled
  intro other filling hfilling
  rw [Array.getElem?_replicate] at hfilling
  split at hfilling <;> cases hfilling

/-- The mappings of a loaded document have distinct keys, all of them scalars. -/
theorem keyed_of_load {supply : Supply} {graph : Graph} (h : load supply = .ok graph) {id : NodeId}
    {entries : List (Datum × Datum)} (hfilling : graph.filling id = .map entries) :
    Keyed entries := by
  have hfound : graph.fillings[id]? = some (some (.map entries)) := by
    rw [Graph.filling] at hfilling
    cases hget : graph.fillings[id]? with
    | none =>
      rw [hget] at hfilling
      cases hfilling
    | some slot =>
      rw [hget] at hfilling
      cases slot with
      | none => cases hfilling
      | some found => exact congrArg (some ∘ some) hfilling
  rcases except_bind_eq_ok.mp h with ⟨found, -, hgraph⟩
  cases found with
  | none =>
    cases hgraph
    cases hfound
  | some document => exact sound_of_graph hgraph id (.map entries) hfound

end RequestScript.Yaml
