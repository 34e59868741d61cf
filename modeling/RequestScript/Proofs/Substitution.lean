import Mathlib.Data.List.Infix
import RequestScript.Bindings
import RequestScript.Proofs.Text.Words

/-!
# Substitution

A variable name is a word without an equals sign.  No occurrence of a name can
therefore reach over a blank or an equals sign, and substitution acts on the pieces
of a line between them one by one.  Where no name occurs, nothing changes.

Main results:

- Theorem {lit}`replaceAll_append_cons`: a character that the replaced text does
  not hold cuts the replacement in two.
- Theorem {lit}`substitute_append_cons`: the same for all variables together.
- Theorem {lit}`Avoids.substitute_eq`: a text in which no name occurs stays.
- Theorem {lit}`mem_of_mem_substitute`: where the characters of a line come from.
-/

namespace RequestScript

namespace Text

/-- A name: a word without an equals sign. -/
def IsName (text : Text) : Prop :=
  IsWord text ∧ '=' ∉ text

instance (text : Text) : Decidable (IsName text) :=
  inferInstanceAs (Decidable (_ ∧ _))

/-- A name is not empty. -/
theorem IsName.ne_nil {name : Text} (h : IsName name) : name ≠ [] :=
  h.1.1

/-! ## One name -/

/-- Whether a text begins another is not decided behind a character that it does not have. -/
theorem isPrefixOf_append_cons {old : Text} {c : Char} (hc : c ∉ old) (a b : Text) :
    old.isPrefixOf (a ++ c :: b) = old.isPrefixOf a := by
  induction old generalizing a with
  | nil => simp
  | cons d old ih =>
    have hd : d ≠ c := fun h => hc (h ▸ List.mem_cons_self)
    have hold : c ∉ old := fun h => hc (List.mem_cons_of_mem d h)
    cases a with
    | nil => simp [List.isPrefixOf, hd]
    | cons x a => simp [List.isPrefixOf, ih hold]

/-- Replacing goes on separately on both sides of a character that the old text does not have. -/
theorem replaceFrom_append_cons {old : Text} {c : Char} (hne : old ≠ []) (hc : c ∉ old)
    (new b : Text) (a : Text) (skip : Nat) (hskip : skip ≤ a.length) :
    replaceFrom old new skip (a ++ c :: b) =
      replaceFrom old new skip a ++ c :: replaceFrom old new 0 b := by
  induction a generalizing skip with
  | nil =>
    obtain rfl : skip = 0 := Nat.le_zero.mp hskip
    have hprefix : old.isPrefixOf (c :: b) = false := by
      have h := isPrefixOf_append_cons hc [] b
      rw [List.nil_append] at h
      rw [h]
      cases old with
      | nil => exact absurd rfl hne
      | cons d old => rfl
    simp [replaceFrom, hprefix]
  | cons x a ih =>
    cases skip with
    | succ skip =>
      have hle : skip ≤ a.length := by simpa using hskip
      exact ih skip hle
    | zero =>
      have hsame := isPrefixOf_append_cons hc (x :: a) b
      simp only [List.cons_append] at hsame ⊢
      simp only [replaceFrom, hsame]
      split
      · -- an occurrence at the front ends before the cut
        rename_i hprefix
        have hlength : old.length ≤ (x :: a).length :=
          (List.isPrefixOf_iff_prefix.mp hprefix).length_le
        have hle : old.length - 1 ≤ a.length := by
          simp only [List.length_cons] at hlength
          omega
        rw [ih _ hle, List.append_assoc]
      · rw [ih 0 (Nat.zero_le _), List.cons_append]

/-- A character that the replaced text does not hold cuts the replacement in
two. -/
theorem replaceAll_append_cons {old : Text} {c : Char} (hne : old ≠ []) (hc : c ∉ old)
    (new a b : Text) :
    replaceAll old new (a ++ c :: b) = replaceAll old new a ++ c :: replaceAll old new b := by
  simp only [replaceAll, if_neg hne]
  exact replaceFrom_append_cons hne hc new b a 0 (Nat.zero_le _)

/-- A text in which the old one does not occur is left as it is. -/
theorem replaceAll_eq_self {old text : Text} (hne : old ≠ []) (h : ¬ old <:+: text)
    (new : Text) : replaceAll old new text = text := by
  simp only [replaceAll, if_neg hne]
  induction text with
  | nil => rfl
  | cons c rest ih =>
    have hprefix : old.isPrefixOf (c :: rest) = false := by
      rw [Bool.eq_false_iff]
      exact fun hp => h (List.isPrefixOf_iff_prefix.mp hp).isInfix
    have hrest : ¬ old <:+: rest := fun hi => h (List.infix_cons hi)
    simp [replaceFrom, hprefix, ih hrest]

/-- Replacing brings in only characters of the new text. -/
theorem mem_of_mem_replaceFrom {old new text : Text} {skip : Nat} {c : Char}
    (h : c ∈ replaceFrom old new skip text) : c ∈ text ∨ c ∈ new := by
  induction skip, text using replaceFrom.induct old with
  | case1 skip => simp at h
  | case2 skip d rest ih => exact (ih h).imp_left (List.mem_cons_of_mem d)
  | case3 d rest hprefix ih =>
    rw [replaceFrom, if_pos hprefix] at h
    rcases List.mem_append.mp h with hnew | hlater
    · exact Or.inr hnew
    · exact (ih hlater).imp_left (List.mem_cons_of_mem d)
  | case4 d rest hprefix ih =>
    rw [replaceFrom, if_neg hprefix] at h
    rcases List.mem_cons.mp h with rfl | hlater
    · exact Or.inl List.mem_cons_self
    · exact (ih hlater).imp_left (List.mem_cons_of_mem d)

/-- Interleaving brings in only characters of the new text. -/
theorem mem_of_mem_interleave {new text : Text} {c : Char} (h : c ∈ interleave new text) :
    c ∈ text ∨ c ∈ new := by
  induction text with
  | nil => exact Or.inr h
  | cons d rest ih =>
    rcases List.mem_append.mp h with hnew | hlater
    · exact Or.inr hnew
    · rcases List.mem_cons.mp hlater with rfl | hlater
      · exact Or.inl List.mem_cons_self
      · exact (ih hlater).imp_left (List.mem_cons_of_mem d)

/-- A replacement brings in no characters but those of the new text. -/
theorem mem_of_mem_replaceAll {old new text : Text} {c : Char} (h : c ∈ replaceAll old new text) :
    c ∈ text ∨ c ∈ new := by
  unfold replaceAll at h
  split at h
  · exact mem_of_mem_interleave h
  · exact mem_of_mem_replaceFrom h

end Text

/-! ## All names -/

namespace Bindings

open Text

/-- Every variable has a proper name. -/
def Named (bindings : Bindings) : Prop :=
  ∀ name ∈ bindings.keys, IsName name

theorem named_empty : Named ∅ := by
  intro name hname
  simp at hname

/-- A definition adds its own name only. -/
theorem mem_keys_define {bindings : Bindings} {name value other : Text}
    (h : other ∈ (bindings.define name value).keys) : other ∈ bindings.keys ∨ other = name :=
  (OrderedMap.mem_keys_insert.mp h).symm

/-- Variables have names if those before a definition do and the new one is a name. -/
theorem Named.define {bindings : Bindings} (h : bindings.Named) {name : Text} (hname : IsName name)
    (value : Text) : (bindings.define name value).Named := by
  intro other hother
  rcases mem_keys_define hother with hold | rfl
  · exact h other hold
  · exact hname

/-- The value of a variable that has just been defined. -/
@[simp]
theorem value?_define_self (bindings : Bindings) (name value : Text) :
    (bindings.define name value).value? name = some value :=
  OrderedMap.get?_insert_self bindings name value

/-- A definition leaves the values of other variables as they are. -/
theorem value?_define_of_ne (bindings : Bindings) {name other : Text} (h : other ≠ name)
    (value : Text) : (bindings.define name value).value? other = bindings.value? other :=
  OrderedMap.get?_insert_of_ne bindings h value

/-- Replacing by all entries goes on separately on both sides of a character that no key has. -/
private theorem foldl_replaceAll_append_cons {c : Char} {entries : List (Text × Text)}
    (h : ∀ entry ∈ entries, entry.1 ≠ [] ∧ c ∉ entry.1) (a b : Text) :
    entries.foldl (fun acc entry => replaceAll entry.1 entry.2 acc) (a ++ c :: b) =
      entries.foldl (fun acc entry => replaceAll entry.1 entry.2 acc) a ++
        c :: entries.foldl (fun acc entry => replaceAll entry.1 entry.2 acc) b := by
  induction entries generalizing a b with
  | nil => rfl
  | cons entry entries ih =>
    have hentry := h entry List.mem_cons_self
    simp only [List.foldl_cons]
    rw [replaceAll_append_cons hentry.1 hentry.2]
    exact ih (fun e he => h e (List.mem_cons_of_mem entry he)) _ _

/-- Replacing by all entries leaves a text as it is in which no key occurs. -/
private theorem foldl_replaceAll_eq_self {entries : List (Text × Text)} {text : Text}
    (h : ∀ entry ∈ entries, entry.1 ≠ [] ∧ ¬ entry.1 <:+: text) :
    entries.foldl (fun acc entry => replaceAll entry.1 entry.2 acc) text = text := by
  induction entries with
  | nil => rfl
  | cons entry entries ih =>
    have hentry := h entry List.mem_cons_self
    rw [List.foldl_cons, replaceAll_eq_self hentry.1 hentry.2]
    exact ih fun e he => h e (List.mem_cons_of_mem entry he)

private theorem mem_keys_of_mem_entries {bindings : Bindings} {entry : Text × Text}
    (h : entry ∈ bindings.entries) : entry.1 ∈ bindings.keys :=
  List.mem_map_of_mem h

/-- Replacing by all entries brings in only characters of their values. -/
private theorem mem_of_mem_foldl_replaceAll {entries : List (Text × Text)} {text : Text} {c : Char}
    (h : c ∈ entries.foldl (fun acc entry => replaceAll entry.1 entry.2 acc) text) :
    c ∈ text ∨ ∃ entry ∈ entries, c ∈ entry.2 := by
  induction entries generalizing text with
  | nil => exact Or.inl h
  | cons entry entries ih =>
    rcases ih h with hfirst | ⟨later, hlater, hc⟩
    · exact (mem_of_mem_replaceAll hfirst).imp_right fun hc =>
        ⟨entry, List.mem_cons_self, hc⟩
    · exact Or.inr ⟨later, List.mem_cons_of_mem entry hlater, hc⟩

/-- A character of a substituted line stands on the line or in the value of a variable. -/
theorem mem_of_mem_substitute {bindings : Bindings} {text : Text} {c : Char}
    (h : c ∈ bindings.substitute text) : c ∈ text ∨ ∃ entry ∈ bindings.entries, c ∈ entry.2 :=
  mem_of_mem_foldl_replaceAll h

/-- A character that no name holds cuts a substitution in two. -/
theorem substitute_append_cons {bindings : Bindings} {c : Char}
    (h : ∀ name ∈ bindings.keys, name ≠ [] ∧ c ∉ name) (a b : Text) :
    bindings.substitute (a ++ c :: b) = bindings.substitute a ++ c :: bindings.substitute b :=
  foldl_replaceAll_append_cons (fun _ hentry => h _ (mem_keys_of_mem_entries hentry)) a b

/-- No name occurs in a text. -/
def Avoids (bindings : Bindings) (text : Text) : Prop :=
  ∀ name ∈ bindings.keys, ¬ name <:+: text

instance (bindings : Bindings) (text : Text) : Decidable (bindings.Avoids text) :=
  inferInstanceAs (Decidable (∀ name ∈ bindings.keys, ¬ name <:+: text))

/-- A part of a text names no variable if the text does not. -/
theorem Avoids.of_isInfix {bindings : Bindings} {text part : Text} (h : bindings.Avoids text)
    (hpart : part <:+: text) : bindings.Avoids part := by
  intro name hname hoccurs
  exact h name hname (hoccurs.trans hpart)

/-- A text that names no variable names none after a definition of a name that it does not hold. -/
theorem Avoids.define {bindings : Bindings} {text : Text} (h : bindings.Avoids text) {name : Text}
    (hname : ¬ name <:+: text) (value : Text) : (bindings.define name value).Avoids text := by
  intro other hother
  rcases mem_keys_define hother with hold | rfl
  · exact h other hold
  · exact hname

/-- A text in which no name occurs stays as it is. -/
theorem Avoids.substitute_eq_of_ne_nil {bindings : Bindings} {text : Text}
    (h : bindings.Avoids text) (hne : ∀ name ∈ bindings.keys, name ≠ []) :
    bindings.substitute text = text :=
  foldl_replaceAll_eq_self fun _ hentry =>
    have hkey := mem_keys_of_mem_entries hentry
    ⟨hne _ hkey, h _ hkey⟩

/-- Where no variable is named nothing is replaced. -/
theorem Avoids.substitute_eq {bindings : Bindings} {text : Text} (h : bindings.Avoids text)
    (hnamed : bindings.Named) : bindings.substitute text = text :=
  h.substitute_eq_of_ne_nil fun name hname => (hnamed name hname).ne_nil

/-- Names have no blanks, so both sides of a blank are replaced separately. -/
theorem Named.substitute_append_blank {bindings : Bindings} (h : bindings.Named) {c : Char}
    (hc : isBlank c = true) (a b : Text) :
    bindings.substitute (a ++ c :: b) = bindings.substitute a ++ c :: bindings.substitute b :=
  substitute_append_cons (fun name hname => ⟨(h name hname).ne_nil,
    (h name hname).1.not_mem_of_isBlank hc⟩) a b

/-- Names have no equals sign, so both sides of one are replaced separately. -/
theorem Named.substitute_append_equals {bindings : Bindings} (h : bindings.Named) (a b : Text) :
    bindings.substitute (a ++ '=' :: b) = bindings.substitute a ++ '=' :: bindings.substitute b :=
  substitute_append_cons (fun name hname => ⟨(h name hname).ne_nil, (h name hname).2⟩) a b

/-- Nothing is replaced in the empty text. -/
theorem Named.substitute_nil {bindings : Bindings} (h : bindings.Named) :
    bindings.substitute [] = [] := by
  have havoids : bindings.Avoids [] := by
    intro name hname hoccurs
    exact (h name hname).ne_nil (List.eq_nil_of_infix_nil hoccurs)
  exact havoids.substitute_eq h

/-- A blank in front of a text keeps its place. -/
theorem Named.substitute_cons_blank {bindings : Bindings} (h : bindings.Named) {c : Char}
    (hc : isBlank c = true) (text : Text) :
    bindings.substitute (c :: text) = c :: bindings.substitute text := by
  have hcut := h.substitute_append_blank hc [] text
  rwa [h.substitute_nil, List.nil_append, List.nil_append] at hcut

/-- A detached text stays detached when variables are replaced. -/
theorem Named.detached_substitute {bindings : Bindings} (h : bindings.Named) {text : Text}
    (htext : Detached text) : Detached (bindings.substitute text) := by
  cases text with
  | nil => rw [h.substitute_nil]; exact detached_nil
  | cons c rest =>
    have hc : isBlank c = true := htext c rfl
    rw [h.substitute_cons_blank hc]
    exact detached_cons hc _

/-- What goes on after a word is substituted on its own. -/
theorem Named.substitute_append {bindings : Bindings} (h : bindings.Named) (a : Text) {b : Text}
    (hb : Detached b) :
    bindings.substitute (a ++ b) = bindings.substitute a ++ bindings.substitute b := by
  cases b with
  | nil => rw [h.substitute_nil, List.append_nil, List.append_nil]
  | cons c rest =>
    have hc : isBlank c = true := hb c rfl
    rw [h.substitute_append_blank hc, h.substitute_cons_blank hc]

/-- Blanks hold no names. -/
theorem Named.substitute_blanks_append {bindings : Bindings} (h : bindings.Named) {blanks : Text}
    (hblanks : ∀ c ∈ blanks, isBlank c = true) (text : Text) :
    bindings.substitute (blanks ++ text) = blanks ++ bindings.substitute text := by
  induction blanks with
  | nil => rfl
  | cons c rest ih =>
    rw [List.cons_append, h.substitute_cons_blank (hblanks c List.mem_cons_self),
      ih fun d hd => hblanks d (List.mem_cons_of_mem c hd), List.cons_append]

end Bindings

end RequestScript
