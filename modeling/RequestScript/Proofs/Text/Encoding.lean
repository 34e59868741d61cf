import RequestScript.Text.Utf8

/-!
# Stored texts can be read back

A text that is stored as its octets is found again when the octets are decoded.  Each
character takes one octet to four.  The first one says how many follow, and in which range
the next one lies, so that no character is spelled in two ways; each octet after the first
adds six bits.

Main results:

- Theorem {lit}`stepTail_cons`: what an octet after the first adds.
- Theorem {lit}`exists_step_utf8EncodeChar`: a character is read back in front of any octets.
- Theorem {lit}`decode_encode`: a text is read back.
-/

namespace RequestScript.Utf8

/-! ## First octets -/

/-- What a first octet for one more says: overlong forms have begun with less. -/
theorem first_two : ∀ n < 0x20, 2 ≤ n →
    plan (UInt8.ofNat (n + 0xC0)) = some (1, 0x80, 0xBF) ∧
      leadBits (UInt8.ofNat (n + 0xC0)) = n := by
  decide

/-- What a first octet for two more says: the next one keeps out overlong forms and
surrogates. -/
theorem first_three : ∀ n < 0x10,
    plan (UInt8.ofNat (n + 0xE0)) =
        some (2, if n = 0 then 0xA0 else 0x80, if n = 0xD then 0x9F else 0xBF) ∧
      leadBits (UInt8.ofNat (n + 0xE0)) = n := by
  decide

/-- What a first octet for three more says: the next one keeps out overlong forms and numbers
above the last code point. -/
theorem first_four : ∀ n < 5,
    plan (UInt8.ofNat (n + 0xF0)) =
        some (3, if n = 0 then 0x90 else 0x80, if n = 4 then 0x8F else 0xBF) ∧
      leadBits (UInt8.ofNat (n + 0xF0)) = n := by
  decide

/-- An octet that is a character by itself. -/
theorem first_one {n : Nat} (h : n ≤ 0x7F) :
    plan (UInt8.ofNat n) = some (0, 0, 0) ∧ leadBits (UInt8.ofNat n) = n := by
  have hsmall : UInt8.ofNat n ≤ 0x7F := by
    rw [UInt8.le_iff_toNat_le, UInt8.toNat_ofNat']
    exact Nat.le_trans (Nat.mod_le n _) h
  have hmod : n % 256 = n := Nat.mod_eq_of_lt (by omega)
  rw [plan, leadBits, if_pos hsmall, if_pos hsmall]
  exact ⟨rfl, by simpa using hmod⟩

/-! ## Octets after the first -/

/-- An octet after the first adds six bits, if it lies in its range. -/
theorem stepTail_cons {low high : UInt8} {n : Nat} (hlow : low.toNat ≤ n % 0x40 + 0x80)
    (hhigh : n % 0x40 + 0x80 ≤ high.toNat) (bits taken owed : Nat) (rest : List UInt8) :
    stepTail bits taken (owed + 1) low high (UInt8.ofNat (n % 0x40 + 0x80) :: rest) =
      stepTail (bits * 0x40 + n % 0x40) (taken + 1) owed 0x80 0xBF rest := by
  have hvalue : (UInt8.ofNat (n % 0x40 + 0x80)).toNat = n % 0x40 + 0x80 := by
    rw [UInt8.toNat_ofNat']
    omega
  have hin : (low ≤ UInt8.ofNat (n % 0x40 + 0x80) && UInt8.ofNat (n % 0x40 + 0x80) ≤ high) =
      true := by
    simp only [UInt8.le_iff_toNat_le, hvalue, hlow, hhigh, decide_true, Bool.and_self]
  have hbits : (UInt8.ofNat (n % 0x40 + 0x80)).toNat % 0x40 = n % 0x40 := by
    rw [hvalue]
    omega
  rw [stepTail, if_pos hin, hbits]

/-- An octet after the second lies in the full range. -/
theorem stepTail_cons_full (n bits taken owed : Nat) (rest : List UInt8) :
    stepTail bits taken (owed + 1) 0x80 0xBF (UInt8.ofNat (n % 0x40 + 0x80) :: rest) =
      stepTail (bits * 0x40 + n % 0x40) (taken + 1) owed 0x80 0xBF rest := by
  have hlow : (0x80 : UInt8).toNat ≤ n % 0x40 + 0x80 := by simp
  have hhigh : n % 0x40 + 0x80 ≤ (0xBF : UInt8).toNat := by
    simp
    omega
  exact stepTail_cons hlow hhigh bits taken owed rest

/-! ## Characters

A character is read back from one octet, or from two to four of which the first carries the
highest bits of its number. -/

theorem step_one {v : Nat} (h : v ≤ 0x7F) (rest : List UInt8) :
    step (UInt8.ofNat v) rest = .char (Char.ofNat v) 1 := by
  rcases first_one h with ⟨hplan, hlead⟩
  simp only [step, hplan, hlead, stepTail]

theorem step_two {v : Nat} (hone : ¬ v ≤ 0x7F) (h : v ≤ 0x7FF) (rest : List UInt8) :
    step (UInt8.ofNat (v / 64 % 32 + 0xC0)) (UInt8.ofNat (v % 64 + 0x80) :: rest) =
      .char (Char.ofNat v) 2 := by
  rcases first_two (v / 64 % 32) (by omega) (by omega) with ⟨hplan, hlead⟩
  have hbits : v / 64 % 32 * 0x40 + v % 0x40 = v := by omega
  simp only [step, hplan, hlead]
  rw [stepTail_cons_full, hbits, stepTail]

theorem step_three {v : Nat} (hvalid : v < 0xD800 ∨ 0xDFFF < v) (htwo : ¬ v ≤ 0x7FF)
    (h : v ≤ 0xFFFF) (rest : List UInt8) :
    step (UInt8.ofNat (v / 4096 % 16 + 0xE0))
        (UInt8.ofNat (v / 64 % 64 + 0x80) :: UInt8.ofNat (v % 64 + 0x80) :: rest) =
      .char (Char.ofNat v) 3 := by
  rcases first_three (v / 4096 % 16) (by omega) with ⟨hplan, hlead⟩
  have hlow : (if v / 4096 % 16 = 0 then (0xA0 : UInt8) else 0x80).toNat ≤
      v / 64 % 0x40 + 0x80 := by
    split
    · simp
      omega
    · simp
  have hhigh : v / 64 % 0x40 + 0x80 ≤
      (if v / 4096 % 16 = 0xD then (0x9F : UInt8) else 0xBF).toNat := by
    split
    · simp
      omega
    · simp
      omega
  have hbits : (v / 4096 % 16 * 0x40 + v / 64 % 0x40) * 0x40 + v % 0x40 = v := by omega
  simp only [step, hplan, hlead]
  rw [stepTail_cons hlow hhigh, stepTail_cons_full, hbits, stepTail]

theorem step_four {v : Nat} (hvalid : v < 0x110000) (hthree : ¬ v ≤ 0xFFFF)
    (rest : List UInt8) :
    step (UInt8.ofNat (v / 262144 % 8 + 0xF0))
        (UInt8.ofNat (v / 4096 % 64 + 0x80) :: UInt8.ofNat (v / 64 % 64 + 0x80) ::
          UInt8.ofNat (v % 64 + 0x80) :: rest) =
      .char (Char.ofNat v) 4 := by
  rcases first_four (v / 262144 % 8) (by omega) with ⟨hplan, hlead⟩
  have hlow : (if v / 262144 % 8 = 0 then (0x90 : UInt8) else 0x80).toNat ≤
      v / 4096 % 0x40 + 0x80 := by
    split
    · simp
      omega
    · simp
  have hhigh : v / 4096 % 0x40 + 0x80 ≤
      (if v / 262144 % 8 = 4 then (0x8F : UInt8) else 0xBF).toNat := by
    split
    · simp
      omega
    · simp
      omega
  have hbits : ((v / 262144 % 8 * 0x40 + v / 4096 % 0x40) * 0x40 + v / 64 % 0x40) * 0x40 +
      v % 0x40 = v := by omega
  simp only [step, hplan, hlead]
  rw [stepTail_cons hlow hhigh, stepTail_cons_full, stepTail_cons_full, hbits, stepTail]

/-- A character is read back, whatever follows it. -/
theorem exists_step_utf8EncodeChar (c : Char) :
    ∃ first tail, String.utf8EncodeChar c = first :: tail ∧
      ∀ rest, step first (tail ++ rest) = .char c (tail.length + 1) := by
  have hvalid : c.toNat < 0xD800 ∨ 0xDFFF < c.toNat ∧ c.toNat < 0x110000 := c.valid
  have hvalue : c.val.toNat = c.toNat := rfl
  have hchar : Char.ofNat c.toNat = c := Char.ofNat_toNat c
  rw [String.utf8EncodeChar.eq_1, hvalue]
  clear hvalue
  generalize c.toNat = v at hvalid hchar ⊢
  subst hchar
  by_cases hone : v ≤ 0x7F
  · exact ⟨_, _, if_pos hone, step_one hone⟩
  rw [if_neg hone]
  by_cases htwo : v ≤ 0x7FF
  · exact ⟨_, _, if_pos htwo, step_two hone htwo⟩
  rw [if_neg htwo]
  by_cases hthree : v ≤ 0xFFFF
  · exact ⟨_, _, if_pos hthree, step_three (by omega) htwo hthree⟩
  · exact ⟨_, _, if_neg hthree, step_four (by omega) hthree⟩

/-! ## Texts -/

/-- The octets that the last character has used are passed over. -/
theorem decodeFrom_skip (position : Nat) (used rest : List UInt8) :
    decodeFrom position used.length (used ++ rest) =
      decodeFrom (position + used.length) 0 rest := by
  induction used generalizing position with
  | nil => rfl
  | cons b used ih =>
    rw [List.length_cons, List.cons_append, decodeFrom, ih]
    congr 1
    omega

/-- A text is read back, wherever its octets begin. -/
theorem decodeFrom_encode (position : Nat) (text : Text) :
    decodeFrom position 0 (encode text) = .ok text := by
  induction text generalizing position with
  | nil => rfl
  | cons c text ih =>
    rcases exists_step_utf8EncodeChar c with ⟨first, tail, hchar, hstep⟩
    have hencode : encode (c :: text) = first :: (tail ++ encode text) := by
      rw [encode, List.flatMap_cons, hchar]
      rfl
    rw [hencode, decodeFrom, hstep]
    dsimp only
    rw [Nat.add_sub_cancel, decodeFrom_skip, ih]
    rfl

/-- A text is read back from its octets. -/
@[simp]
theorem decode_encode (text : Text) : decode (encode text) = .ok text :=
  decodeFrom_encode 0 text

end RequestScript.Utf8
