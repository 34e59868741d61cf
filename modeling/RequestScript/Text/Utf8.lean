import RequestScript.Text.Decimal

/-!
# UTF-8

Files hold octets; a text is stored as its UTF-8 octets.  Decoding is strict: it
stops at the first octets that no text has, and says which ones they are and what
is wrong with them.

Main results:

- Definition {lit}`decode`: the text that octets hold, or the fault.
- Definition {lit}`Fault.message`: the wording of a fault.
-/

namespace RequestScript.Utf8

/-- What is wrong with octets that hold no text. -/
inductive Flaw where
  /-- The octet can not begin a character. -/
  | start
  /-- A character has begun and the next octet does not continue it. -/
  | continuation
  /-- The octets end inside a character. -/
  | truncated
deriving DecidableEq, Repr

/-- A place where decoding stops: the octets from {lit}`position` on,
{lit}`width` of them, can not be read; {lit}`first` is the first one. -/
structure Fault where
  position : Nat
  width : Nat
  first : UInt8
  flaw : Flaw
deriving DecidableEq, Repr

/-- The octets of a text. -/
def encode (text : Text) : List UInt8 :=
  text.flatMap String.utf8EncodeChar

/-- How a first octet goes on: the number of octets after it, and the range of
the next one.  The ranges keep out overlong forms, surrogates and numbers above
the last code point. -/
def plan (b : UInt8) : Option (Nat × UInt8 × UInt8) :=
  if b ≤ 0x7F then some (0, 0, 0)
  else if b < 0xC2 then none
  else if b ≤ 0xDF then some (1, 0x80, 0xBF)
  else if b = 0xE0 then some (2, 0xA0, 0xBF)
  else if b = 0xED then some (2, 0x80, 0x9F)
  else if b ≤ 0xEF then some (2, 0x80, 0xBF)
  else if b = 0xF0 then some (3, 0x90, 0xBF)
  else if b ≤ 0xF3 then some (3, 0x80, 0xBF)
  else if b = 0xF4 then some (3, 0x80, 0x8F)
  else none

/-- The bits that a first octet contributes. -/
def leadBits (b : UInt8) : Nat :=
  if b ≤ 0x7F then b.toNat
  else if b ≤ 0xDF then b.toNat % 0x20
  else if b ≤ 0xEF then b.toNat % 0x10
  else b.toNat % 0x08

/-- What reading one character finds: the character and the number of octets it
took, or the number of octets that can not be read and their flaw. -/
inductive Step where
  | char (c : Char) (width : Nat)
  | fault (width : Nat) (flaw : Flaw)
deriving DecidableEq, Repr

/-- Read the octets of a character after the first, where {lit}`taken` octets are
read, {lit}`owed` are to come, and the next one is in a range. -/
def stepTail (bits taken : Nat) : Nat → UInt8 → UInt8 → List UInt8 → Step
  | 0, _, _, _ => .char (Char.ofNat bits) taken
  | _ + 1, _, _, [] => .fault taken .truncated
  | owed + 1, low, high, b :: rest =>
    if low ≤ b && b ≤ high then
      stepTail (bits * 0x40 + b.toNat % 0x40) (taken + 1) owed 0x80 0xBF rest
    else .fault taken .continuation

/-- Read one character. -/
def step (b : UInt8) (rest : List UInt8) : Step :=
  match plan b with
  | none => .fault 1 .start
  | some (owed, low, high) => stepTail (leadBits b) 1 owed low high rest

/-- Read characters, passing over {lit}`skip` octets that the last one has
used. -/
def decodeFrom (position : Nat) : Nat → List UInt8 → Except Fault Text
  | _, [] => .ok []
  | skip + 1, _ :: rest => decodeFrom (position + 1) skip rest
  | 0, b :: rest =>
    match step b rest with
    | .char c width => (decodeFrom (position + 1) (width - 1) rest).map (c :: ·)
    | .fault width flaw => .error ⟨position, width, b, flaw⟩

/-- The text that octets hold. -/
def decode (octets : List UInt8) : Except Fault Text :=
  decodeFrom 0 0 octets

/-- The wording of a flaw. -/
def Flaw.message : Flaw → Text
  | .start => "invalid start byte".toList
  | .continuation => "invalid continuation byte".toList
  | .truncated => "unexpected end of data".toList

/-- The wording of a fault: one octet is named by its value, several by their
positions. -/
def Fault.message (fault : Fault) : Text :=
  let place :=
    if fault.width = 1 then
      "byte 0x".toList ++ Text.padded 16 2 fault.first.toNat ++ " in position ".toList
        ++ Text.ofNat fault.position
    else
      "bytes in position ".toList ++ Text.ofNat fault.position ++ ['-']
        ++ Text.ofNat (fault.position + fault.width - 1)
  "'utf-8' codec can't decode ".toList ++ place ++ ": ".toList ++ fault.flaw.message

example : decode (encode "aé中😀".toList) = .ok "aé中😀".toList := by rfl
example : decode [0x61, 0xC3, 0x28] = .error ⟨1, 1, 0xC3, .continuation⟩ := by rfl
example : decode [0xE2, 0x82] = .error ⟨0, 2, 0xE2, .truncated⟩ := by rfl

end RequestScript.Utf8
