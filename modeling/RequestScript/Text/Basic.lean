/-!
# Texts

Every text of the library is a list of Unicode code points, so that a rule about
texts is a rule about lists: it is defined by recursion on the characters and
argued by induction on them.  This file holds the rules that do not depend on a
character class: joining, splitting at the first occurrence of a character,
replacing every occurrence of a text by another, and the order of texts.

Some formats and file systems can name half of a surrogate pair, which is no
character.  In a text a private character stands in for it, 0x100000 code points
further on, and it counts as its own number wherever code points are compared,
escaped or encoded.  The 2048 characters that stand in, the last ones of the last
private plane, are therefore not to be had for themselves: a text that holds one is
taken to hold the surrogate.

Main results:

- Theorem {lit}`splitAtFirst_cons_ne` and its companions: the part before a
  separator holds no separator.
- Theorem {lit}`replaceAll_empty_nil`: replacing the empty text inserts the
  replacement also at the end.
-/

namespace RequestScript

/-- A text is a list of code points. -/
abbrev Text := List Char

namespace Text

/-! ## Joining -/

/-- The texts one after another, with a separator between neighbours. -/
def join (separator : Text) (parts : List Text) : Text :=
  separator.intercalate parts

@[simp]
theorem join_nil (separator : Text) : join separator [] = [] := rfl

@[simp]
theorem join_singleton (separator part : Text) : join separator [part] = part := by
  simp [join, List.intercalate]

/-! ## Splitting at the first occurrence -/

/-- The part before the first occurrence of a separator and, when the separator
occurs, the part after it. -/
def splitAtFirst (separator : Char) : Text → Text × Option Text
  | [] => ([], none)
  | c :: rest =>
    if c = separator then ([], some rest)
    else
      let (before, after) := splitAtFirst separator rest
      (c :: before, after)

@[simp]
theorem splitAtFirst_nil (separator : Char) : splitAtFirst separator [] = ([], none) := rfl

@[simp]
theorem splitAtFirst_cons_eq (separator : Char) (rest : Text) :
    splitAtFirst separator (separator :: rest) = ([], some rest) := by
  simp [splitAtFirst]

/-- A character that is no separator goes to the part before it. -/
theorem splitAtFirst_cons_ne {separator c : Char} (h : c ≠ separator) (rest : Text) :
    splitAtFirst separator (c :: rest) =
      (c :: (splitAtFirst separator rest).1, (splitAtFirst separator rest).2) := by
  simp [splitAtFirst, h]

/-! ## Replacing every occurrence -/

/-- Replace the occurrences of a non-empty text from left to right, where
{lit}`skip` counts the characters of the last occurrence still to be passed
over. -/
def replaceFrom (old new : Text) : Nat → Text → Text
  | _, [] => []
  | skip + 1, _ :: rest => replaceFrom old new skip rest
  | 0, c :: rest =>
    if old.isPrefixOf (c :: rest) then new ++ replaceFrom old new (old.length - 1) rest
    else c :: replaceFrom old new 0 rest

/-- Insert a text before every character and at the end. -/
def interleave (new : Text) : Text → Text
  | [] => new
  | c :: rest => new ++ c :: interleave new rest

/-- Replace every occurrence of a text.  Occurrences are found from left to
right and do not overlap; the empty text occurs before every character and at
the end. -/
def replaceAll (old new text : Text) : Text :=
  if old = [] then interleave new text else replaceFrom old new 0 text

@[simp]
theorem replaceFrom_nil (old new : Text) (skip : Nat) : replaceFrom old new skip [] = [] := by
  cases skip <;> rfl

@[simp]
theorem replaceAll_empty_nil (new : Text) : replaceAll [] new [] = new := rfl

/-- Characters that are still to be passed over can as well be dropped. -/
theorem replaceFrom_eq_drop (old new : Text) (skip : Nat) (text : Text) :
    replaceFrom old new skip text = replaceFrom old new 0 (text.drop skip) := by
  induction skip generalizing text with
  | zero => rfl
  | succ skip ih =>
    cases text with
    | nil => simp
    | cons c rest => simpa [replaceFrom] using ih rest

/-- Remove every occurrence of the characters of a class. -/
def without (p : Char → Bool) (text : Text) : Text :=
  text.filter fun c => !p c

/-! ## Stripping the ends -/

/-- Drop the characters of a class from the end. -/
def stripEnd (p : Char → Bool) (text : Text) : Text :=
  (text.reverse.dropWhile p).reverse

/-- Drop the characters of a class from both ends. -/
def strip (p : Char → Bool) (text : Text) : Text :=
  stripEnd p (text.dropWhile p)

@[simp]
theorem strip_nil (p : Char → Bool) : strip p [] = [] := rfl

/-! ## Stand-ins -/

/-- How far a stand-in is from the surrogate it stands for. -/
def standInDistance : Nat := 0x100000

/-- The character that stands in for a surrogate. -/
def standInFor (surrogate : Nat) : Char :=
  Char.ofNat (surrogate + standInDistance)

/-- Whether a character stands in for a surrogate. -/
def isStandIn (c : Char) : Bool :=
  0x10D800 ≤ c.toNat && c.toNat ≤ 0x10DFFF

/-- The code point that a character stands for. -/
def codePointOf (c : Char) : Nat :=
  if isStandIn c then c.toNat - standInDistance else c.toNat

/-- Different characters stand for different code points, since no character is a
surrogate itself. -/
theorem codePointOf_injective {c d : Char} (h : codePointOf c = codePointOf d) : c = d := by
  have hc : c.toNat < 0xD800 ∨ 0xDFFF < c.toNat ∧ c.toNat < 0x110000 := c.valid
  have hd : d.toNat < 0xD800 ∨ 0xDFFF < d.toNat ∧ d.toNat < 0x110000 := d.valid
  apply Char.toNat_inj.mp
  simp only [codePointOf, isStandIn, standInDistance, Bool.and_eq_true, decide_eq_true_eq] at h
  split at h <;> split at h <;> omega

/-! ## ASCII -/

/-- Whether a text is ASCII. -/
def isAscii (text : Text) : Bool :=
  text.all fun c => c.toNat < 0x80

/-- Two texts are ASCII together exactly when each of them is. -/
@[simp]
theorem isAscii_append (front back : Text) :
    isAscii (front ++ back) = (isAscii front && isAscii back) := by
  simp [isAscii]

/-! ## Order -/

/-- Texts are ordered by the code points that their characters stand for, a text
before its extensions. -/
def le : Text → Text → Bool
  | [], _ => true
  | _ :: _, [] => false
  | a :: as, b :: bs => codePointOf a < codePointOf b || (a == b && le as bs)

end Text

end RequestScript
