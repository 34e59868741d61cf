import Mathlib.Data.List.Basic
import RequestScript.Proofs.Text.Words
import RequestScript.Text.Upper

/-!
# Upper case is reached in one step

The tables send no letter to another letter that they move on: the images of the
runs lie apart from all runs and all expansions, and so do the characters of the
longer forms.  A text in upper case is therefore its own upper-case form.

Main results:

- Theorem {lit}`upper_upper`: taking the upper case twice is taking it once.
- Theorem {lit}`upper_ne_nil`: a text does not vanish in upper case.
- Theorem {lit}`IsWord.upper`: a word stays a word in upper case.
-/

namespace RequestScript
namespace Text

/-! ## The tables -/

/-- Whether one of the tables moves a code point. -/
def isCased (n : Nat) : Bool :=
  caseRuns.any (·.contains n) || caseExpansions.any fun expansion => Nat.beq expansion.1 n

/-- Whether the image of a run lies apart from a second run: below it, above it, or
between its code points. -/
def CaseRun.avoids (run other : CaseRun) : Bool :=
  let low := (run.first + run.shift).toNat
  let high := (run.last + run.shift).toNat
  Nat.blt high other.first || Nat.blt other.last low ||
    (other.step == 2 && (run.step == 2 || low == high) && low % 2 != other.first % 2)

/-- Whether a code point lies outside the image of a run. -/
def CaseRun.avoidsPoint (run : CaseRun) (n : Nat) : Bool :=
  Nat.blt (run.last + run.shift).toNat n || Nat.blt n (run.first + run.shift).toNat

/-- Whether the image of a run lies apart from all blanks. -/
def CaseRun.avoidsBlanks (run : CaseRun) : Bool :=
  blankRanges.all fun range =>
    Nat.blt (run.last + run.shift).toNat range.1 || Nat.blt range.2 (run.first + run.shift).toNat

/-- The code points of the longer forms. -/
def expandedPoints : List Nat :=
  (caseExpansions.flatMap Prod.snd).eraseDups

/-- No run of letters is sent into a run. -/
theorem runs_avoid_runs : (caseRuns.all fun run => caseRuns.all run.avoids) = true := by
  decide +kernel

/-- No run of letters is sent to a letter with a longer form. -/
theorem runs_avoid_expansions :
    (caseRuns.all fun run => caseExpansions.all fun e => run.avoidsPoint e.1) = true := by
  decide +kernel

/-- The characters of the longer forms are not moved on. -/
theorem expandedPoints_not_cased : (expandedPoints.all fun n => !isCased n) = true := by
  decide +kernel

/-- The characters of the longer forms are no blanks. -/
theorem expandedPoints_not_blank :
    (expandedPoints.all fun n => !isBlank (Char.ofNat n)) = true := by
  decide +kernel

/-- No run of letters is sent to a blank. -/
theorem runs_avoid_blanks : (caseRuns.all CaseRun.avoidsBlanks) = true := by
  decide +kernel

/-- Longer forms are not empty, and their code points lie below the surrogates. -/
theorem expansions_valid :
    (caseExpansions.all fun e => !e.2.isEmpty && e.2.all fun n => Nat.blt n 0xD800) = true := by
  decide +kernel

/-- No run is shifted below the first code point. -/
theorem runs_nonneg : ∀ run ∈ caseRuns, 0 ≤ run.first + run.shift := by
  decide +kernel

/-! ## Images -/

/-- A run holds every code point from its first to its last, in its steps. -/
theorem CaseRun.contains_iff {run : CaseRun} {n : Nat} :
    run.contains n = true ↔
      run.first ≤ n ∧ n ≤ run.last ∧ (n - run.first) % run.step = 0 := by
  simp [CaseRun.contains, and_assoc]

/-- A run that avoids another sends none of its code points into it. -/
theorem CaseRun.not_contains_of_avoids {run other : CaseRun} {n : Nat}
    (hpos : 0 ≤ run.first + run.shift) (havoids : run.avoids other = true)
    (hn : run.contains n = true) : other.contains (n + run.shift).toNat = false := by
  rw [CaseRun.contains_iff] at hn
  rw [Bool.eq_false_iff]
  intro hother
  rw [CaseRun.contains_iff] at hother
  simp only [CaseRun.avoids, Bool.or_eq_true, Bool.and_eq_true, Nat.blt_eq, beq_iff_eq,
    bne_iff_ne, ne_eq] at havoids
  rcases havoids with (hbelow | habove) | ⟨⟨htwo, hone⟩, hparity⟩
  · omega
  · omega
  · rw [htwo] at hother
    rcases hone with hrun | hpoint
    · rw [hrun] at hn
      omega
    · omega

/-- A run that avoids a code point sends none of its own to it. -/
theorem CaseRun.ne_of_avoidsPoint {run : CaseRun} {n m : Nat}
    (havoids : run.avoidsPoint m = true) (hn : run.contains n = true) :
    (n + run.shift).toNat ≠ m := by
  rw [CaseRun.contains_iff] at hn
  simp only [CaseRun.avoidsPoint, Bool.or_eq_true, Nat.blt_eq] at havoids
  omega

/-- No table moves the image of a letter under a run. -/
theorem isCased_of_run {run : CaseRun} (hrun : run ∈ caseRuns) {n : Nat}
    (hn : run.contains n = true) : isCased (n + run.shift).toNat = false := by
  have hpos := runs_nonneg run hrun
  have hruns : ∀ other ∈ caseRuns, other.contains (n + run.shift).toNat = false := by
    intro other hother
    have havoids := List.all_eq_true.mp (List.all_eq_true.mp runs_avoid_runs run hrun) other hother
    exact CaseRun.not_contains_of_avoids hpos havoids hn
  have hexpansions : ∀ e ∈ caseExpansions, (n + run.shift).toNat ≠ e.1 := by
    intro e he
    have havoids := List.all_eq_true.mp (List.all_eq_true.mp runs_avoid_expansions run hrun) e he
    exact CaseRun.ne_of_avoidsPoint havoids hn
  simp only [isCased, Bool.or_eq_false_iff, List.any_eq_false]
  refine ⟨fun other hother => by simp [hruns other hother], fun e he => ?_⟩
  simpa using (hexpansions e he).symm

theorem toNat_ofNat {n : Nat} (h : n.isValidChar) : (Char.ofNat n).toNat = n := by
  rw [Char.ofNat, dif_pos h]
  rfl

/-- What is found in a table stands in it. -/
theorem mem_of_lookup {entries : List (Nat × List Nat)} {n : Nat} {form : List Nat}
    (h : entries.lookup n = some form) : (n, form) ∈ entries := by
  rcases List.lookup_eq_some_iff.mp h with ⟨front, rest, rfl, -⟩
  simp

/-- The longer forms are made of code points below the surrogates, so of characters. -/
theorem lt_of_mem_expandedPoints {n : Nat} (h : n ∈ expandedPoints) : n < 0xD800 := by
  rw [expandedPoints, List.mem_eraseDups, List.mem_flatMap] at h
  rcases h with ⟨entry, hentry, hn⟩
  have hvalid := List.all_eq_true.mp expansions_valid entry hentry
  rw [Bool.and_eq_true] at hvalid
  simpa using List.all_eq_true.mp hvalid.2 n hn

/-- Where the characters of an upper-case form come from: a longer form, the image under a
run, or the character itself if no table moves it. -/
theorem mem_upperChar {c d : Char} (h : d ∈ upperChar c) :
    (∃ n ∈ expandedPoints, d = Char.ofNat n) ∨
      (∃ run ∈ caseRuns, run.contains c.toNat = true ∧
        d = Char.ofNat (c.toNat + run.shift).toNat) ∨
      d = c ∧ isCased c.toNat = false := by
  unfold upperChar at h
  split at h
  · rename_i form hform
    rcases List.mem_map.mp h with ⟨n, hn, rfl⟩
    have hmem : (c.toNat, form) ∈ caseExpansions := mem_of_lookup hform
    refine Or.inl ⟨n, ?_, rfl⟩
    rw [expandedPoints, List.mem_eraseDups, List.mem_flatMap]
    exact ⟨_, hmem, hn⟩
  · rename_i hlookup
    split at h
    · rename_i run hfind
      have hcontains := List.find?_some hfind
      exact Or.inr (Or.inl ⟨run, List.mem_of_find?_eq_some hfind, hcontains,
        List.mem_singleton.mp h⟩)
    · rename_i hfind
      refine Or.inr (Or.inr ⟨List.mem_singleton.mp h, ?_⟩)
      simp only [isCased, Bool.or_eq_false_iff, List.any_eq_false]
      refine ⟨fun run hrun => List.find?_eq_none.mp hfind run hrun, fun e he => ?_⟩
      have hne := List.lookup_eq_none_iff.mp hlookup e he
      intro heq
      simp [Nat.eq_of_beq_eq_true heq] at hne

/-- A number that is no code point of a character is taken for zero. -/
theorem ofNat_eq_zero {n : Nat} (h : ¬ n.isValidChar) : Char.ofNat n = Char.ofNat 0 := by
  rw [Char.ofNat, dif_neg h]
  rfl

/-- An upper-case form holds only characters that no table moves. -/
theorem isCased_of_mem_upperChar {c d : Char} (h : d ∈ upperChar c) :
    isCased d.toNat = false := by
  rcases mem_upperChar h with ⟨n, hn, rfl⟩ | ⟨run, hrun, hcontains, rfl⟩ | ⟨rfl, hsame⟩
  · rw [toNat_ofNat (Or.inl (lt_of_mem_expandedPoints hn))]
    simpa using List.all_eq_true.mp expandedPoints_not_cased n hn
  · by_cases hvalid : (c.toNat + run.shift).toNat.isValidChar
    · rw [toNat_ofNat hvalid]
      exact isCased_of_run hrun hcontains
    · rw [ofNat_eq_zero hvalid]
      decide +kernel
  · exact hsame

/-- A blank does not come in with the upper case. -/
theorem isBlank_of_mem_upperChar {c d : Char} (hc : isBlank c = false) (h : d ∈ upperChar c) :
    isBlank d = false := by
  rcases mem_upperChar h with ⟨n, hn, rfl⟩ | ⟨run, hrun, hcontains, rfl⟩ | ⟨rfl, -⟩
  · simpa using List.all_eq_true.mp expandedPoints_not_blank n hn
  · by_cases hvalid : (c.toNat + run.shift).toNat.isValidChar
    · rw [isBlank, List.any_eq_false]
      intro range hrange
      have havoids := List.all_eq_true.mp (List.all_eq_true.mp runs_avoid_blanks run hrun) range hrange
      rw [CaseRun.contains_iff] at hcontains
      simp only [Bool.or_eq_true, Nat.blt_eq] at havoids
      rw [toNat_ofNat hvalid]
      simp only [Bool.and_eq_true, decide_eq_true_eq, not_and]
      omega
    · rw [ofNat_eq_zero hvalid]
      decide +kernel
  · exact hc

/-- A character that no table moves is its own upper-case form. -/
theorem upperChar_eq_self {c : Char} (h : isCased c.toNat = false) : upperChar c = [c] := by
  simp only [isCased, Bool.or_eq_false_iff, List.any_eq_false] at h
  have hlookup : caseExpansions.lookup c.toNat = none := by
    rw [List.lookup_eq_none_iff]
    intro e he
    have hne : ¬ e.1 = c.toNat := by simpa using h.2 e he
    simpa using fun heq => hne heq.symm
  have hfind : caseRuns.find? (·.contains c.toNat) = none := by
    rw [List.find?_eq_none]
    exact h.1
  simp [upperChar, hlookup, hfind]

/-- The upper-case form of a character has a character. -/
theorem upperChar_ne_nil (c : Char) : upperChar c ≠ [] := by
  unfold upperChar
  split
  · rename_i form hform
    have hentry := List.all_eq_true.mp expansions_valid _ (mem_of_lookup hform)
    rw [Bool.and_eq_true] at hentry
    simpa using hentry.1
  · split <;> simp

/-! ## Texts -/

/-- Taking the upper case twice is taking it once. -/
@[simp]
theorem upper_upper (text : Text) : upper (upper text) = upper text := by
  have hfixed : ∀ d ∈ upper text, upperChar d = [d] := by
    intro d hd
    rcases List.mem_flatMap.mp hd with ⟨c, -, hc⟩
    exact upperChar_eq_self (isCased_of_mem_upperChar hc)
  rw [upper, List.flatMap_congr hfixed, List.flatMap_singleton']

/-- A text does not vanish in upper case. -/
theorem upper_ne_nil {text : Text} (h : text ≠ []) : upper text ≠ [] := by
  cases text with
  | nil => exact absurd rfl h
  | cons c rest => simp [upperChar_ne_nil]

/-- A word stays a word in upper case. -/
theorem IsWord.upper {word : Text} (h : IsWord word) : IsWord (upper word) := by
  refine ⟨upper_ne_nil h.1, fun d hd => ?_⟩
  rcases List.mem_flatMap.mp hd with ⟨c, hc, hform⟩
  exact isBlank_of_mem_upperChar (h.2 c hc) hform

end Text
end RequestScript
