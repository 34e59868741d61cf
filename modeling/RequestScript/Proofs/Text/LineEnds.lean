import RequestScript.Proofs.Text.Words
import RequestScript.Scan

/-!
# Line ends

A file is read with every line end written as a newline; a text that comes another way keeps
the carriage returns that it has.  This makes no difference to a script as long as each
carriage return stands right before a newline.  There it is the last character of a line, and
lines are trimmed before anything else is done with them.

Main results:

- Definition {lit}`Text.Paired`: each carriage return stands right before a newline.
- Theorem {lit}`Text.map_stripEnd_lines_normalizeLineEnds`: line ends do not show in lines
  without the blanks at their ends.
- Theorem {lit}`Script.scan_normalizeLineEnds`: line ends do not show in a scan.
-/

namespace RequestScript

namespace Text

/-- Each carriage return stands right before a newline. -/
def Paired (text : Text) : Prop :=
  ∀ place < text.length, text[place]? = some '\r' → text[place + 1]? = some '\n'

instance : DecidablePred Paired := fun text =>
  inferInstanceAs
    (Decidable (∀ place < text.length, text[place]? = some '\r' → text[place + 1]? = some '\n'))

theorem Paired.tail {c : Char} {rest : Text} (h : Paired (c :: rest)) : Paired rest := by
  intro place hplace hreturn
  exact h (place + 1) (by simpa using hplace) hreturn

theorem Paired.head {rest : Text} (h : Paired ('\r' :: rest)) : ∃ later, rest = '\n' :: later := by
  have hnext : rest[0]? = some '\n' := h 0 (by simp) rfl
  cases rest with
  | nil => simp at hnext
  | cons c later =>
    have hc : c = '\n' := by simpa using hnext
    exact ⟨later, by rw [hc]⟩

/-! ## Lines -/

theorem lines_cons_newline (rest : Text) : lines ('\n' :: rest) = [] :: lines rest :=
  lines_append_cons [] rest

/-- A character that ends no line stands at the front of the first line. -/
theorem exists_lines_cons {c : Char} (hc : c ≠ '\n') (rest : Text) :
    ∃ first others, lines rest = first :: others ∧ lines (c :: rest) = (c :: first) :: others := by
  have hends : ¬ (c == '\n') = true := by simpa using hc
  rcases List.exists_cons_of_ne_nil (List.splitOn_ne_nil '\n' rest) with ⟨first, others, hrest⟩
  refine ⟨first, others, hrest, ?_⟩
  have hcut : lines (c :: rest) = (rest.splitOn '\n').modifyHead (c :: ·) := by
    rw [lines, List.splitOn, List.splitOnP_cons_eq_if_modifyHead, if_neg hends]
    rfl
  rw [hcut, hrest]
  rfl

/-- Line ends do not show in lines without the blanks at their ends. -/
theorem map_stripEnd_lines_normalizeLineEnds {text : Text} (h : Paired text) :
    (lines (normalizeLineEnds text)).map (stripEnd isBlank) =
      (lines text).map (stripEnd isBlank) := by
  induction text using normalizeLineEnds.induct with
  | case1 => rfl
  | case2 rest ih =>
    have hreturn : lines ('\r' :: '\n' :: rest) = ['\r'] :: lines rest :=
      lines_append_cons ['\r'] rest
    rw [normalizeLineEnds, lines_cons_newline, hreturn, List.map_cons, List.map_cons,
      ih h.tail.tail]
    rfl
  | case3 c rest hsingle ih =>
    have hc : c ≠ '\r' := by
      intro hreturn
      subst hreturn
      rcases h.head with ⟨later, hlater⟩
      exact hsingle later rfl hlater
    have hkept : normalizeLineEnds (c :: rest) = c :: normalizeLineEnds rest := by
      rw [normalizeLineEnds, if_neg hc]
      exact hsingle
    rw [hkept]
    by_cases hnewline : c = '\n'
    · rw [hnewline, lines_cons_newline, lines_cons_newline, List.map_cons, List.map_cons,
        ih h.tail]
    · rcases exists_lines_cons hnewline rest with ⟨first, others, hrest, hcons⟩
      rcases exists_lines_cons hnewline (normalizeLineEnds rest) with
        ⟨first', others', hrest', hcons'⟩
      have hsame := ih h.tail
      rw [hrest, hrest', List.map_cons, List.map_cons, List.cons.injEq] at hsame
      rw [hcons, hcons', List.map_cons, List.map_cons, stripEnd_cons, stripEnd_cons, hsame.1,
        hsame.2]

end Text

/-! ## Scripts -/

namespace Script

open Text

/-- Lines are trimmed, so the blanks at their ends do not matter. -/
theorem linesFrom_congr {index : Nat} {texts others : List Text}
    (h : texts.map (stripEnd isBlank) = others.map (stripEnd isBlank)) :
    linesFrom index texts = linesFrom index others := by
  induction texts generalizing index others with
  | nil =>
    rw [List.map_nil] at h
    rw [List.map_eq_nil_iff.mp h.symm]
  | cons raw texts ih =>
    rcases List.map_eq_cons_iff.mp h.symm with ⟨raw', others, rfl, hraw, hothers⟩
    rw [linesFrom, linesFrom, ← trim_stripEnd raw, ← hraw, trim_stripEnd, ih hothers.symm]

theorem lines_normalizeLineEnds {content : Text} (h : Paired content) :
    lines (normalizeLineEnds content) = lines content :=
  linesFrom_congr (map_stripEnd_lines_normalizeLineEnds h)

/-- Line ends do not show in a scan: not in its requests, and not in its fault. -/
theorem scan_normalizeLineEnds {content : Text} (h : Paired content) :
    scan (normalizeLineEnds content) = scan content := by
  rw [scan, scan, lines_normalizeLineEnds h]

-- a carriage return within a line is a blank of its own and ends the line of a file
example : lines (normalizeLineEnds "a\rb".toList) ≠ lines "a\rb".toList := by decide

end Script
end RequestScript
