import Mathlib.Data.List.Infix
import Mathlib.Data.List.Nodup
import RequestScript.Proofs.Substitution
import RequestScript.Proofs.Writes

/-!
# Separate variables

Variables are replaced one after another, each on the line that the others have left, so that in
general the order of their definitions shows.  It does not show for separate variables: their
names do not overlap, and no character of a value is one of a name.  A replacement then puts a
wall between the pieces of the line that it leaves.  What occurs behind it has occurred before,
and no two replacements meet.

Main results:

- Theorem {lit}`occurrence_induction`: a text is taken apart into occurrences and other
  characters.
- Theorem {lit}`infix_replaceAll`: what occurs after a replacement has occurred before.
- Theorem {lit}`Separate.replaceAll_comm`: two replacements in either order.
- Theorem {lit}`substitute_of_separable`: no name is left, and the order does not matter.
-/

namespace RequestScript

namespace Text

/-! ## Occurrences -/

section Replacement

variable {old : Text} (hne : old ≠ []) (new : Text)
include hne

theorem replaceAll_nil : replaceAll old new [] = [] := by
  rw [replaceAll, if_neg hne, replaceFrom_nil]

/-- An occurrence at the front is replaced. -/
theorem replaceAll_append_self (rest : Text) :
    replaceAll old new (old ++ rest) = new ++ replaceAll old new rest := by
  cases old with
  | nil => exact absurd rfl hne
  | cons c old =>
    have hprefix : (c :: old).isPrefixOf (c :: (old ++ rest)) = true :=
      List.isPrefixOf_iff_prefix.mpr (List.prefix_append (c :: old) rest)
    rw [replaceAll, replaceAll, if_neg hne, if_neg hne, List.cons_append, replaceFrom,
      if_pos hprefix, replaceFrom_eq_drop, List.length_cons, Nat.add_sub_cancel, List.drop_left]

/-- A character at which no occurrence begins stays. -/
theorem replaceAll_cons {c : Char} {rest : Text} (h : ¬ old <+: c :: rest) :
    replaceAll old new (c :: rest) = c :: replaceAll old new rest := by
  have hprefix : ¬ old.isPrefixOf (c :: rest) = true := mt List.isPrefixOf_iff_prefix.mp h
  rw [replaceAll, replaceAll, if_neg hne, if_neg hne, replaceFrom, if_neg hprefix]

/-- A front part in which no occurrence begins stays. -/
theorem replaceAll_append {front : Text}
    (h : ∀ part, part <:+ front → part ≠ [] → ∀ rest, ¬ old <+: part ++ rest) (rest : Text) :
    replaceAll old new (front ++ rest) = front ++ replaceAll old new rest := by
  induction front with
  | nil => rfl
  | cons c front ih =>
    have hfirst : ¬ old <+: c :: (front ++ rest) :=
      h (c :: front) (List.suffix_refl _) (List.cons_ne_nil c front) rest
    rw [List.cons_append, replaceAll_cons hne new hfirst, List.cons_append,
      ih fun part hpart => h part (hpart.trans (List.suffix_cons c front))]

end Replacement

/-- A text is taken apart from the front: it is empty, or begins with an occurrence of one of
some texts, or with a character at which none of them occurs. -/
theorem occurrence_induction {olds : List Text} (hne : ∀ old ∈ olds, old ≠ [])
    {motive : Text → Prop} (nil : motive [])
    (occurs : ∀ old ∈ olds, ∀ rest, motive rest → motive (old ++ rest))
    (other : ∀ c rest, (∀ old ∈ olds, ¬ old <+: c :: rest) → motive rest → motive (c :: rest))
    (text : Text) : motive text := by
  induction hlength : text.length using Nat.strong_induction_on generalizing text with
  | h n ih =>
    subst hlength
    cases text with
    | nil => exact nil
    | cons c rest =>
      by_cases hold : ∃ old ∈ olds, old <+: c :: rest
      · rcases hold with ⟨old, hmem, after, hafter⟩
        rw [← hafter] at ih ⊢
        have hpos : 0 < old.length := List.length_pos_iff.mpr (hne old hmem)
        exact occurs old hmem after (ih after.length (by rw [List.length_append]; omega) after rfl)
      · have hnone : ∀ old ∈ olds, ¬ old <+: c :: rest :=
          fun old hmem hprefix => hold ⟨old, hmem, hprefix⟩
        exact other c rest hnone (ih rest.length (Nat.lt_succ_self rest.length) rest rfl)

/-! ## Walls -/

/-- No text but the empty one begins in a text whose characters it does not hold. -/
theorem not_prefix_append_of_foreign {text part : Text} (htext : text ≠ []) (hpart : part ≠ [])
    (h : ∀ c ∈ part, c ∉ text) (rest : Text) : ¬ text <+: part ++ rest := by
  cases text with
  | nil => exact absurd rfl htext
  | cons d text =>
    cases part with
    | nil => exact absurd rfl hpart
    | cons c part =>
      intro hprefix
      obtain rfl : d = c := (List.cons_prefix_cons.mp hprefix).1
      exact h d List.mem_cons_self List.mem_cons_self

/-- What occurs in a text but has none of the characters of its front part occurs behind it. -/
theorem infix_of_infix_append_foreign {text front rest : Text} (htext : text ≠ [])
    (h : ∀ c ∈ front, c ∉ text) (hoccurs : text <:+: front ++ rest) : text <:+: rest := by
  induction front with
  | nil => exact hoccurs
  | cons c front ih =>
    rw [List.cons_append, List.infix_cons_iff] at hoccurs
    rcases hoccurs with hprefix | hinside
    · exact absurd hprefix
        (not_prefix_append_of_foreign htext (List.cons_ne_nil c front) h rest)
    · exact ih (fun d hd => h d (List.mem_cons_of_mem c hd)) hinside

section Walls

variable {old new : Text} (hold : old ≠ []) (hnew : new ≠ [])
include hold hnew

/-- What begins a line after a replacement has begun it before, unless it holds characters that
have been brought in. -/
theorem prefix_of_prefix_replaceAll {front text : Text} (h : ∀ c ∈ new, c ∉ front)
    (hbegins : front <+: replaceAll old new text) : front <+: text := by
  have holds : ∀ found ∈ [old], found ≠ [] := by simpa using hold
  induction text using occurrence_induction holds generalizing front with
  | nil => rwa [replaceAll_nil hold] at hbegins
  | occurs found hfound rest ih =>
    obtain rfl := List.mem_singleton.mp hfound
    rw [replaceAll_append_self hold] at hbegins
    by_cases hfront : front = []
    · rw [hfront]
      exact List.nil_prefix
    · exact absurd hbegins (not_prefix_append_of_foreign hfront hnew h _)
  | other c rest hother ih =>
    rw [replaceAll_cons hold new (hother old List.mem_cons_self)] at hbegins
    cases front with
    | nil => exact List.nil_prefix
    | cons d front =>
      rw [List.cons_prefix_cons] at hbegins ⊢
      exact ⟨hbegins.1, ih (fun e he hmem => h e he (List.mem_cons_of_mem d hmem)) hbegins.2⟩

/-- What occurs after a replacement is not the text that has been replaced, and has occurred
before. -/
theorem infix_replaceAll {name text : Text} (hname : name ≠ []) (h : ∀ c ∈ new, c ∉ name)
    (hoccurs : name <:+: replaceAll old new text) : name ≠ old ∧ name <:+: text := by
  have holds : ∀ found ∈ [old], found ≠ [] := by simpa using hold
  induction text using occurrence_induction holds with
  | nil =>
    rw [replaceAll_nil hold] at hoccurs
    exact absurd (List.eq_nil_of_infix_nil hoccurs) hname
  | occurs found hfound rest ih =>
    obtain rfl := List.mem_singleton.mp hfound
    rw [replaceAll_append_self hold] at hoccurs
    have hbehind := ih (infix_of_infix_append_foreign hname h hoccurs)
    exact ⟨hbehind.1, hbehind.2.trans (List.suffix_append found rest).isInfix⟩
  | other c rest hother ih =>
    have hfirst := hother old List.mem_cons_self
    have hsame := replaceAll_cons hold new hfirst
    rw [hsame, List.infix_cons_iff] at hoccurs
    rcases hoccurs with hprefix | hinside
    · rw [← hsame] at hprefix
      have hbefore := prefix_of_prefix_replaceAll hold hnew h hprefix
      exact ⟨fun heq => hfirst (heq ▸ hbefore), hbefore.isInfix⟩
    · exact ⟨(ih hinside).1, List.infix_cons (ih hinside).2⟩

end Walls

/-! ## Two replacements -/

/-- A text does not reach into another one: it is not contained in it, and no end of it begins
the other. -/
structure Apart (a b : Text) : Prop where
  outside : ¬ a <:+: b
  ends : ∀ part, part <:+ a → part ≠ [] → part ≠ a → ¬ part <+: b

instance (a b : Text) : Decidable (Apart a b) :=
  decidable_of_iff (¬ a <:+: b ∧ ∀ part ∈ a.tails, part ≠ [] → part ≠ a → ¬ part <+: b)
    ⟨fun ⟨outside, ends⟩ => ⟨outside, fun part h => ends part ((List.mem_tails part a).mpr h)⟩,
      fun h => ⟨h.outside, fun part hpart => h.ends part ((List.mem_tails part a).mp hpart)⟩⟩

/-- No occurrence of a text begins within another one that stands apart from it. -/
theorem Apart.not_prefix_append {a b : Text} (hab : Apart a b) (hba : Apart b a) {part : Text}
    (hpart : part <:+ a) (hne : part ≠ []) (rest : Text) : ¬ b <+: part ++ rest := by
  intro hprefix
  rcases List.prefix_or_prefix_of_prefix hprefix (List.prefix_append part rest) with hin | hover
  · exact hba.outside (hin.isInfix.trans hpart.isInfix)
  · by_cases hwhole : part = a
    · exact hab.outside (hwhole ▸ hover.isInfix)
    · exact hab.ends part hpart hne hwhole hover

/-- A name with its value is separate from another one: the name does not reach into the other
name, and no character of the value is one of the other name. -/
structure Separate (first second : Text × Text) : Prop where
  named : first.1 ≠ []
  valued : first.2 ≠ []
  foreign : ∀ c ∈ first.2, c ∉ second.1
  apart : Apart first.1 second.1

namespace Separate

variable {first second : Text × Text} (h : Separate first second) (h' : Separate second first)
include h h'

/-- Two replacements act on an occurrence at the front independently of each other. -/
theorem replaceAll_front (rest : Text) :
    replaceAll first.1 first.2 (replaceAll second.1 second.2 (first.1 ++ rest)) =
        first.2 ++ replaceAll first.1 first.2 (replaceAll second.1 second.2 rest) ∧
      replaceAll second.1 second.2 (replaceAll first.1 first.2 (first.1 ++ rest)) =
        first.2 ++ replaceAll second.1 second.2 (replaceAll first.1 first.2 rest) := by
  constructor
  · have hname : ∀ part, part <:+ first.1 → part ≠ [] → ∀ rest, ¬ second.1 <+: part ++ rest :=
      fun part hpart hne => h.apart.not_prefix_append h'.apart hpart hne
    rw [replaceAll_append h'.named second.2 hname, replaceAll_append_self h.named]
  · have hvalue : ∀ part, part <:+ first.2 → part ≠ [] → ∀ rest, ¬ second.1 <+: part ++ rest :=
      fun part hpart hne => not_prefix_append_of_foreign h'.named hne
        fun c hc => h.foreign c (hpart.subset hc)
    rw [replaceAll_append_self h.named, replaceAll_append h'.named second.2 hvalue]

/-- A character at which neither name occurs stays. -/
theorem replaceAll_other {c : Char} {rest : Text} (hfirst : ¬ first.1 <+: c :: rest)
    (hsecond : ¬ second.1 <+: c :: rest) :
    replaceAll first.1 first.2 (replaceAll second.1 second.2 (c :: rest)) =
      c :: replaceAll first.1 first.2 (replaceAll second.1 second.2 rest) := by
  have hsame := replaceAll_cons h'.named second.2 hsecond
  have hnone : ¬ first.1 <+: c :: replaceAll second.1 second.2 rest := by
    rw [← hsame]
    exact fun hprefix => hfirst
      (prefix_of_prefix_replaceAll h'.named h'.valued h'.foreign hprefix)
  rw [hsame, replaceAll_cons h.named first.2 hnone]

/-- Separate names are replaced in either order. -/
theorem replaceAll_comm (text : Text) :
    replaceAll first.1 first.2 (replaceAll second.1 second.2 text) =
      replaceAll second.1 second.2 (replaceAll first.1 first.2 text) := by
  have hne : ∀ old ∈ [first.1, second.1], old ≠ [] := by
    simp [h.named, h'.named]
  induction text using occurrence_induction hne with
  | nil => simp only [replaceAll_nil h.named, replaceAll_nil h'.named]
  | occurs found hfound rest ih =>
    rcases List.mem_pair.mp hfound with rfl | rfl
    · rw [(replaceAll_front h h' rest).1, (replaceAll_front h h' rest).2, ih]
    · rw [(replaceAll_front h' h rest).1, (replaceAll_front h' h rest).2, ih]
  | other c rest hother ih =>
    have hfirst := hother first.1 (List.mem_pair.mpr (Or.inl rfl))
    have hsecond := hother second.1 (List.mem_pair.mpr (Or.inr rfl))
    rw [replaceAll_other h h' hfirst hsecond, replaceAll_other h' h hsecond hfirst, ih]

end Separate

end Text

/-! ## All variables -/

namespace Bindings

open Text

/-- The variables after some definitions, the first one first. -/
def defined (definitions : List (Text × Text)) : Bindings :=
  definitions.foldl (fun bindings definition => bindings.define definition.1 definition.2) ∅

theorem nodup_keys_defined (definitions : List (Text × Text)) : (defined definitions).keys.Nodup :=
  OrderedMap.nodup_keys_ofList definitions

/-- What occurs in a line after some replacements is none of the names that have been replaced,
and has occurred before. -/
theorem ne_and_infix_of_infix_foldl {entries : List (Text × Text)} {name text : Text}
    (hname : name ≠ [])
    (h : ∀ entry ∈ entries, entry.1 ≠ [] ∧ entry.2 ≠ [] ∧ ∀ c ∈ entry.2, c ∉ name)
    (hoccurs : name <:+: entries.foldl (fun acc entry => replaceAll entry.1 entry.2 acc) text) :
    (∀ entry ∈ entries, name ≠ entry.1) ∧ name <:+: text := by
  induction entries generalizing text with
  | nil => exact ⟨fun entry hentry => absurd hentry List.not_mem_nil, hoccurs⟩
  | cons entry entries ih =>
    have hfirst := h entry List.mem_cons_self
    have hlater := ih (fun other hother => h other (List.mem_cons_of_mem entry hother)) hoccurs
    have hbefore := infix_replaceAll hfirst.1 hfirst.2.1 hname hfirst.2.2 hlater.2
    exact ⟨List.forall_mem_cons.mpr ⟨hbefore.1, hlater.1⟩, hbefore.2⟩

/-- Variables that are defined once, in any order, have the values that they have been given. -/
theorem value?_defined_of_perm {bindings : Bindings} (hdistinct : bindings.keys.Nodup)
    {order : List (Text × Text)} (h : order.Perm bindings.entries) (name : Text) :
    (defined order).value? name = bindings.value? name := by
  have hnodup : (order.map Prod.fst).Nodup := (h.map Prod.fst).nodup_iff.mpr hdistinct
  have hentries : defined order = ⟨order⟩ := OrderedMap.ofList_of_nodup hnodup
  rw [hentries]
  exact (OrderedMap.perm_entries_iff hnodup hdistinct).mp h name

/-- Variables are separable: no name and no value is empty, no character of a value is one of a
name, and no two names overlap. -/
structure Separable (bindings : Bindings) : Prop where
  named : ∀ entry ∈ bindings.entries, entry.1 ≠ []
  valued : ∀ entry ∈ bindings.entries, entry.2 ≠ []
  foreign : ∀ entry ∈ bindings.entries, ∀ other ∈ bindings.entries, ∀ c ∈ entry.2, c ∉ other.1
  apart : ∀ entry ∈ bindings.entries, ∀ other ∈ bindings.entries, entry.1 ≠ other.1 →
    Apart entry.1 other.1

namespace Separable

variable {bindings : Bindings} (h : bindings.Separable)
include h

theorem separate {entry other : Text × Text} (hentry : entry ∈ bindings.entries)
    (hother : other ∈ bindings.entries) (hne : entry.1 ≠ other.1) : Separate entry other :=
  ⟨h.named entry hentry, h.valued entry hentry, h.foreign entry hentry other hother,
    h.apart entry hentry other hother hne⟩

/-- No name is left. -/
theorem avoids_substitute (text : Text) : bindings.Avoids (bindings.substitute text) := by
  intro name hname hoccurs
  rcases List.mem_map.mp hname with ⟨entry, hentry, rfl⟩
  have hbefore := ne_and_infix_of_infix_foldl (h.named entry hentry)
    (fun other hother => ⟨h.named other hother, h.valued other hother,
      h.foreign other hother entry hentry⟩) hoccurs
  exact hbefore.1 entry hentry rfl

/-- There is nothing left to be replaced. -/
theorem substitute_substitute (text : Text) :
    bindings.substitute (bindings.substitute text) = bindings.substitute text := by
  refine (h.avoids_substitute text).substitute_eq_of_ne_nil fun name hname => ?_
  rcases List.mem_map.mp hname with ⟨entry, hentry, rfl⟩
  exact h.named entry hentry

/-- The same variables in another order replace the same names by the same values. -/
theorem substitute_eq_of_perm {other : Bindings} (hdistinct : bindings.keys.Nodup)
    (hperm : bindings.entries.Perm other.entries) (text : Text) :
    bindings.substitute text = other.substitute text := by
  refine hperm.foldl_eq' (fun first hfirst second hsecond line => ?_) text
  by_cases hsame : first.1 = second.1
  · rw [List.inj_on_of_nodup_map hdistinct hfirst hsecond hsame]
  · have hseparate := h.separate hfirst hsecond hsame
    have hseparate' := h.separate hsecond hfirst fun heq => hsame heq.symm
    exact (hseparate.replaceAll_comm hseparate' line).symm

end Separable

end Bindings

open Bindings

/-- When variables are separable, a line with its variables replaced holds none of their names,
replacing them again changes nothing, and neither the order in which they are defined nor a
definition that has been overwritten makes a difference. -/
theorem substitute_of_separable {definitions : List (Text × Text)}
    (h : (defined definitions).Separable) (line : Text) :
    (defined definitions).Avoids ((defined definitions).substitute line) ∧
      (defined definitions).substitute ((defined definitions).substitute line) =
        (defined definitions).substitute line ∧
      ∀ others : List (Text × Text),
        (∀ name, (defined others).value? name = (defined definitions).value? name) →
          (defined others).substitute line = (defined definitions).substitute line := by
  refine ⟨h.avoids_substitute line, h.substitute_substitute line, fun others hothers => ?_⟩
  have hperm := (OrderedMap.perm_entries_iff (nodup_keys_defined definitions)
    (nodup_keys_defined others)).mpr fun name => (hothers name).symm
  exact (h.substitute_eq_of_perm (nodup_keys_defined definitions) hperm line).symm

/-- Two names that overlap themselves but not each other; the first one is defined twice. -/
def selfOverlapping : List (Text × Text) :=
  [("aa".toList, "1".toList), ("bcb".toList, "2 3".toList), ("aa".toList, "4=".toList)]

theorem substitute_of_separable_selfOverlapping :
    (defined selfOverlapping).Separable ∧
      (defined selfOverlapping).substitute "aaabcbcbaa".toList = "4=a2 3cb4=".toList ∧
      (defined selfOverlapping).Avoids "4=a2 3cb4=".toList ∧
      (defined selfOverlapping).substitute "4=a2 3cb4=".toList = "4=a2 3cb4=".toList ∧
      (defined [("bcb".toList, "2 3".toList), ("aa".toList, "4=".toList)]).substitute
        "aaabcbcbaa".toList = "4=a2 3cb4=".toList := by
  have hseparable : (defined selfOverlapping).Separable :=
    ⟨by decide, by decide, by decide, by decide⟩
  have hline : (defined selfOverlapping).substitute "aaabcbcbaa".toList =
      "4=a2 3cb4=".toList := by
    decide
  rcases substitute_of_separable hseparable "aaabcbcbaa".toList with ⟨hnone, hagain, horder⟩
  rw [hline] at hnone hagain horder
  refine ⟨hseparable, hline, hnone, hagain, horder _ fun name => ?_⟩
  exact value?_defined_of_perm (nodup_keys_defined selfOverlapping) (by decide) name

end RequestScript
