import RequestScript.Text.Basic

/-!
# Whole numbers as text

Numbers are written in decimal without leading zeros, a negative one with a minus
sign before its digits, and read back digit by digit in a given base.
-/

namespace RequestScript.Text

/-- The decimal digits of a natural number. -/
def ofNat (n : Nat) : Text :=
  Nat.toDigits 10 n

/-- The decimal text of an integer. -/
def ofInt : Int → Text
  | .ofNat n => ofNat n
  | .negSucc n => '-' :: ofNat (n + 1)

/-- The digits of a natural number in a base, with zeros in front up to a
width. -/
def padded (base width n : Nat) : Text :=
  let digits := Nat.toDigits base n
  List.replicate (width - digits.length) '0' ++ digits

/-- Every digit is ASCII, whatever the base. -/
theorem toNat_digitChar_lt (digit : Nat) : (Nat.digitChar digit).toNat < 0x80 := by
  have hsmall : ∀ digit < 16, (Nat.digitChar digit).toNat < 0x80 := by decide
  by_cases h : digit < 16
  · exact hsmall digit h
  · have hlarge : Nat.digitChar digit = '*' := by
      unfold Nat.digitChar
      simp (disch := omega) only [if_neg]
    rw [hlarge]
    decide

/-- The digits of a number are ASCII. -/
theorem isAscii_toDigitsCore (base fuel n : Nat) {digits : Text} (h : isAscii digits = true) :
    isAscii (Nat.toDigitsCore base fuel n digits) = true := by
  induction fuel generalizing n digits with
  | zero => exact h
  | succ fuel ih =>
    have hnext : isAscii (Nat.digitChar (n % base) :: digits) = true := by
      rw [isAscii, List.all_cons, decide_eq_true (toNat_digitChar_lt _)]
      exact h
    rw [Nat.toDigitsCore]
    split
    · exact hnext
    · exact ih _ hnext

@[simp]
theorem isAscii_ofNat (n : Nat) : isAscii (ofNat n) = true :=
  isAscii_toDigitsCore 10 _ n rfl

@[simp]
theorem isAscii_ofInt (i : Int) : isAscii (ofInt i) = true := by
  cases i with
  | ofNat n => exact isAscii_ofNat n
  | negSucc n => exact isAscii_ofNat (n + 1)

/-- Zeros in front of a number are ASCII too. -/
@[simp]
theorem isAscii_padded (base width n : Nat) : isAscii (padded base width n) = true := by
  have hzeros : isAscii (List.replicate (width - (Nat.toDigits base n).length) '0') = true := by
    simp [isAscii]
  rw [padded, isAscii_append, hzeros]
  exact isAscii_toDigitsCore base _ n rfl

/-- The value of a digit of the bases up to sixteen. -/
def digitValue (c : Char) : Option Nat :=
  if '0' ≤ c && c ≤ '9' then some (c.toNat - '0'.toNat)
  else if 'a' ≤ c && c ≤ 'f' then some (c.toNat - 'a'.toNat + 10)
  else if 'A' ≤ c && c ≤ 'F' then some (c.toNat - 'A'.toNat + 10)
  else none

/-- The number that digits of a base stand for; nothing is read from the empty
text or from a text with another character. -/
def readNat (base : Nat) (text : Text) : Option Nat :=
  if text.isEmpty then none
  else text.foldl (fun value c => do
    let value ← value
    let digit ← digitValue c
    if digit < base then some (value * base + digit) else none) (some 0)

@[simp]
theorem readNat_nil (base : Nat) : readNat base [] = none := rfl

example : readNat 10 (ofNat 8000) = some 8000 := by decide
example : ofInt (-7) = "-7".toList := by decide
example : padded 16 4 0xAD = "00ad".toList := by decide

end RequestScript.Text
