import RequestScript.OrderedMap
import RequestScript.Text.Basic

/-!
# Variables

A script names texts and uses the names later.  A name is replaced wherever it
occurs as text, inside a longer word too, and the names are replaced one after
another in the order in which they were first defined, so that a value may bring
in a name that is replaced later.
-/

namespace RequestScript

/-- The variables of a script, in the order of their first definition. -/
abbrev Bindings := OrderedMap Text Text

namespace Bindings

/-- Define a variable; a later definition replaces the value and keeps the
place. -/
def define (bindings : Bindings) (name value : Text) : Bindings :=
  bindings.insert name value

/-- The value of a variable. -/
def value? (bindings : Bindings) (name : Text) : Option Text :=
  bindings.get? name

/-- Replace the names by their values, one name after another. -/
def substitute (bindings : Bindings) (text : Text) : Text :=
  bindings.entries.foldl (fun acc entry => Text.replaceAll entry.1 entry.2 acc) text

@[simp]
theorem substitute_empty (text : Text) : substitute ∅ text = text := rfl

end Bindings

end RequestScript
