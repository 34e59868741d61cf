import RequestScript.Proofs.Scan.WellFormed

/-!
# The variables of a scan

However its definitions are written, a script gives its variables different names.  Every name
is a word without an equals sign, although it is read off a line in which the variables before it
have been replaced, and their values may hold blanks, newlines and equals signs.  No value begins
or ends with a quote.

A blank therefore never belongs to a name that is replaced, and the two sides of a blank are
substituted on their own.

Main results:

- Definition {lit}`Bindings.WellFormed`: what the variables of a scan fulfil.
- Theorem {lit}`Bindings.WellFormed.define`: a definition keeps it.
- Theorem {lit}`Scan.Reaches.bindings_wellFormed`: it holds in every state that a scan reaches.
- Theorem {lit}`variables_of_reaches`: the variables of a scan, and how they are substituted.
-/

namespace RequestScript

open Text

namespace Bindings

/-- What the variables of a scan fulfil. -/
structure WellFormed (bindings : Bindings) : Prop where
  nodup : bindings.keys.Nodup
  named : bindings.Named
  bare : ∀ entry ∈ bindings.entries, Literal.Bare entry.2

namespace WellFormed

variable {bindings : Bindings}

theorem empty : WellFormed ∅ :=
  ⟨List.nodup_nil, named_empty, by simp⟩

/-- A definition of a proper name, by a value that has lost the quotes at its ends, keeps the
variables well-formed, whether or not the name is new. -/
theorem define (h : bindings.WellFormed) {name value : Text} (hname : IsName name)
    (hvalue : Literal.Bare value) : (bindings.define name value).WellFormed where
  nodup := OrderedMap.nodup_keys_insert h.nodup name value
  named := h.named.define hname value
  bare := OrderedMap.forall_mem_insert h.bare hvalue

/-- No variable replaces the empty text. -/
theorem ne_nil (h : bindings.WellFormed) : ∀ entry ∈ bindings.entries, entry.1 ≠ [] := by
  intro entry hentry
  have hkey : entry.1 ∈ bindings.keys := List.mem_map_of_mem hentry
  exact (h.named entry.1 hkey).ne_nil

end WellFormed

end Bindings

namespace Scan

/-- No statement spoils the variables. -/
theorem Binds.wellFormed {bindings after : Bindings} {rest left : List Line}
    {statement : Option Statement} (h : Binds bindings rest statement after left)
    (hbindings : bindings.WellFormed)
    (hsound : ∀ stated, statement = some stated → stated.Sound) : after.WellFormed := by
  cases h with
  | keep => exact hbindings
  | define hdefined => exact hbindings.define (hsound _ rfl) (bare_of_definedValue hdefined)

/-- In every state that a scan reaches, the variables are well-formed. -/
theorem Reaches.bindings_wellFormed {content : Text} {state : State} {lines : List Line}
    (h : Reaches content state lines) : state.bindings.WellFormed := by
  apply h.preserves (fun state => state.bindings.WellFormed) Bindings.WellFormed.empty
  intro state line rest passage hbindings hvisit
  rcases visitLine_ok hvisit with ⟨statement, hpassed⟩
  exact hpassed.binds.wellFormed hbindings hpassed.sound

end Scan

open Scan

/-- In every state that a scan reaches, the variables have different names, which are words
without an equals sign, and values that neither begin nor end with a quote.  So no substitution
replaces the empty text, and a substitution acts on the two sides of a blank on their own. -/
theorem variables_of_reaches {content : Text} {state : State} {lines : List Line}
    (h : Reaches content state lines) :
    state.bindings.WellFormed ∧ (∀ entry ∈ state.bindings.entries, entry.1 ≠ []) ∧
      ∀ (a b : Text) (s : Char), isBlank s = true →
        state.bindings.substitute (a ++ s :: b) =
          state.bindings.substitute a ++ s :: state.bindings.substitute b := by
  have hbindings := h.bindings_wellFormed
  refine ⟨hbindings, hbindings.ne_nil, ?_⟩
  intro a b s hs
  exact hbindings.named.substitute_append_blank hs a b

/-- A script whose second definition has the value of the first one in its name. -/
def cutName : Text :=
  "* def a = 'b c=d'\n* def xa = \"q\"\n* url 'a'".toList

theorem variables_of_reaches_cutName :
    ∃ state line rest, Reaches cutName state (line :: rest) ∧
      state.bindings.entries =
        [("a".toList, "b c=d".toList), ("xb".toList, "d = \"q".toList)] ∧
      state.bindings.WellFormed ∧
      state.bindings.substitute "* xa".toList =
        state.bindings.substitute ['*'] ++ ' ' :: state.bindings.substitute "xa".toList := by
  obtain ⟨visit, hvisit, hentries⟩ : ∃ visit ∈ (Script.scan cutName).visits,
      visit.before.bindings.entries =
        [("a".toList, "b c=d".toList), ("xb".toList, "d = \"q".toList)] := by
    decide +kernel
  rcases exists_reaches_of_mem_visits hvisit with ⟨state, line, rest, hreach, rfl⟩
  rw [visited_before] at hentries
  rcases variables_of_reaches hreach with ⟨hbindings, -, hcuts⟩
  exact ⟨state, line, rest, hreach, hentries, hbindings, hcuts ['*'] "xa".toList ' ' (by decide)⟩

end RequestScript
