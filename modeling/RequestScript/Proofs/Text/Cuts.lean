import Mathlib.Data.List.Infix
import RequestScript.Text.Basic

/-!
# Cutting at a separator

A text is cut at every occurrence of a separator, from left to right.  No piece holds the
separator, and a piece that is followed by the separator is found again, unless the
separator begins earlier: inside the piece, or at its end and reaching over it.

Main results:

- Definition {lit}`splitAll`: the pieces between the occurrences of a separator.
- Theorem {lit}`splitAll_append`: a piece in front is found again.
- Theorem {lit}`not_infix_of_mem_splitAll`: no piece holds the separator.
- Theorem {lit}`mem_join`: the characters of joined texts.
-/

namespace RequestScript.Text

/-! ## Pieces -/

/-- Cut at the occurrences of a separator that is not empty, where {lit}`skip` counts the
characters of the last occurrence still to be passed over. -/
def splitFrom (separator : Text) : Nat → Text → List Text
  | _, [] => [[]]
  | skip + 1, _ :: rest => splitFrom separator skip rest
  | 0, c :: rest =>
    if separator.isPrefixOf (c :: rest) then
      [] :: splitFrom separator (separator.length - 1) rest
    else (splitFrom separator 0 rest).modifyHead (c :: ·)

/-- The pieces of a text between the occurrences of a separator, which are found from left
to right and do not overlap. -/
def splitAll (separator text : Text) : List Text :=
  splitFrom separator 0 text

@[simp]
theorem splitFrom_nil (separator : Text) (skip : Nat) : splitFrom separator skip [] = [[]] := by
  cases skip <;> rfl

theorem splitFrom_eq_drop (separator : Text) (skip : Nat) (text : Text) :
    splitFrom separator skip text = splitAll separator (text.drop skip) := by
  induction skip generalizing text with
  | zero => rfl
  | succ skip ih =>
    cases text with
    | nil => rw [splitFrom_nil, List.drop_nil, splitAll, splitFrom_nil]
    | cons c rest => exact ih rest

theorem splitAll_cons_of_prefix {separator : Text} {c : Char} {rest : Text}
    (h : separator <+: c :: rest) :
    splitAll separator (c :: rest) =
      [] :: splitAll separator (rest.drop (separator.length - 1)) := by
  rw [splitAll, splitFrom, if_pos (List.isPrefixOf_iff_prefix.mpr h), splitFrom_eq_drop]

theorem splitAll_cons_of_not_prefix {separator : Text} {c : Char} {rest : Text}
    (h : ¬ separator <+: c :: rest) :
    splitAll separator (c :: rest) = (splitAll separator rest).modifyHead (c :: ·) := by
  rw [splitAll, splitFrom, if_neg (mt List.isPrefixOf_iff_prefix.mp h), splitAll]

/-- A piece in front of a separator is found again, unless the separator occurs before the
end of the piece. -/
theorem splitAll_append {separator piece : Text} (hne : separator ≠ [])
    (h : ¬ separator <:+: piece ++ separator.dropLast) (rest : Text) :
    splitAll separator (piece ++ (separator ++ rest)) = piece :: splitAll separator rest := by
  induction piece with
  | nil =>
    cases separator with
    | nil => exact absurd rfl hne
    | cons c separator =>
      have hprefix : c :: separator <+: c :: (separator ++ rest) := List.prefix_append _ rest
      rw [List.nil_append, List.cons_append, splitAll_cons_of_prefix hprefix,
        List.length_cons, Nat.add_sub_cancel, List.drop_left]
  | cons c piece ih =>
    have hpiece : ¬ separator <:+: piece ++ separator.dropLast := fun hoccurs =>
      h (List.infix_cons hoccurs)
    have hprefix : ¬ separator <+: c :: (piece ++ (separator ++ rest)) := by
      intro hoccurs
      -- an occurrence at the front ends before the last character of the separator
      have hfront : c :: (piece ++ separator.dropLast) <+: c :: (piece ++ (separator ++ rest)) :=
        List.cons_prefix_cons.mpr ⟨rfl, (List.prefix_append_right_inj piece).mpr
          ((List.dropLast_prefix separator).trans (List.prefix_append separator rest))⟩
      have hlength : separator.length ≤ (c :: (piece ++ separator.dropLast)).length := by
        simp only [List.length_cons, List.length_append, List.length_dropLast]
        omega
      exact h (List.prefix_of_prefix_length_le hoccurs hfront hlength).isInfix
    rw [List.cons_append, splitAll_cons_of_not_prefix hprefix, ih hpiece, List.modifyHead_cons]

/-- No piece holds the separator.  The first piece, unless it begins in an occurrence that
is passed over, is a beginning of the text. -/
theorem splitFrom_eq_cons {separator : Text} (hne : separator ≠ []) (skip : Nat) (text : Text) :
    ∃ piece pieces, splitFrom separator skip text = piece :: pieces ∧
      (skip = 0 → piece <+: text) ∧ ∀ part ∈ piece :: pieces, ¬ separator <:+: part := by
  have hempty : ¬ separator <:+: [] := fun hoccurs => hne (List.eq_nil_of_infix_nil hoccurs)
  induction skip, text using splitFrom.induct separator with
  | case1 skip =>
    exact ⟨[], [], splitFrom_nil separator skip, fun _ => List.prefix_refl [], by simpa using hempty⟩
  | case2 skip c rest ih =>
    rcases ih with ⟨piece, pieces, hpieces, -, hfree⟩
    exact ⟨piece, pieces, hpieces, fun hskip => absurd hskip (Nat.succ_ne_zero skip), hfree⟩
  | case3 c rest hprefix ih =>
    rcases ih with ⟨piece, pieces, hpieces, -, hfree⟩
    refine ⟨[], piece :: pieces, ?_, fun _ => List.nil_prefix, ?_⟩
    · rw [splitFrom, if_pos hprefix, hpieces]
    · exact List.forall_mem_cons.mpr ⟨hempty, hfree⟩
  | case4 c rest hprefix ih =>
    rcases ih with ⟨piece, pieces, hpieces, hfront, hfree⟩
    have hlonger : c :: piece <+: c :: rest := List.cons_prefix_cons.mpr ⟨rfl, hfront rfl⟩
    refine ⟨c :: piece, pieces, ?_, fun _ => hlonger, ?_⟩
    · rw [splitFrom, if_neg hprefix, hpieces, List.modifyHead_cons]
    · refine List.forall_mem_cons.mpr ⟨fun hoccurs => ?_, (List.forall_mem_cons.mp hfree).2⟩
      rcases List.infix_cons_iff.mp hoccurs with hstart | hinside
      · exact hprefix (List.isPrefixOf_iff_prefix.mpr (hstart.trans hlonger))
      · exact hfree piece List.mem_cons_self hinside

/-- No piece holds the separator. -/
theorem not_infix_of_mem_splitAll {separator text piece : Text} (hne : separator ≠ [])
    (h : piece ∈ splitAll separator text) : ¬ separator <:+: piece := by
  rcases splitFrom_eq_cons hne 0 text with ⟨first, pieces, hpieces, -, hfree⟩
  rw [splitAll, hpieces] at h
  exact hfree piece h

example : splitAll "ab".toList "xababyab".toList = ["x".toList, [], "y".toList, []] := by decide

/-! ## Joined texts -/

/-- A character that is not of the separator comes from one of the joined texts. -/
theorem mem_join {separator : Text} {c : Char} (h : c ∉ separator) (parts : List Text) :
    c ∈ join separator parts ↔ ∃ part ∈ parts, c ∈ part := by
  induction parts with
  | nil => simp
  | cons part parts ih =>
    cases parts with
    | nil => simp
    | cons next parts =>
      rw [join, List.intercalate_cons_cons, List.mem_append, List.mem_append, or_iff_left h,
        ← join, ih]
      simp only [List.exists_mem_cons_iff]

/-- Joined texts end as the last of them. -/
theorem suffix_join (separator last : Text) (parts : List Text) :
    last <:+ join separator (parts ++ [last]) := by
  induction parts with
  | nil => rw [List.nil_append, join_singleton]
  | cons part parts ih =>
    rcases List.exists_cons_of_ne_nil (List.append_ne_nil_of_right_ne_nil parts
      (List.cons_ne_nil last [])) with ⟨next, later, hparts⟩
    rw [hparts] at ih
    rw [List.cons_append, hparts, join, List.intercalate_cons_cons]
    exact ih.trans (List.suffix_append _ _)

end RequestScript.Text
