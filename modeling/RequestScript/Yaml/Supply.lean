import RequestScript.Text.Lines
import RequestScript.Yaml.Fault

/-!
# How a YAML file is supplied

A YAML file is not read at once.  Its octets are decoded block by block, its
characters are handed over piece by piece, and a piece is looked through for characters
that no YAML text has when it is handed over.  What is wrong with a piece counts only
when the reading gets there, and it keeps back the whole piece.  The first two pieces
are handed over together.

Octets that are no text are counted from the start of their block, and from the octets
that the block before has left over.

Main results:

- Definition {lit}`Supply.ofOctets`: the text of a file as far as it can be handed
  over, and what ends it early.
-/

namespace RequestScript.Yaml

/-- A text as far as it can be handed over, and what ends it early. -/
structure Supply where
  text : Text
  ending : Option Fault := none
deriving Repr

namespace Supply

/-! ## Blocks -/

/-- The number of characters in a piece. -/
def pieceLength : Nat := 4096

/-- The least number of octets in a block. -/
def blockLength : Nat := 8192

/-- The text of some octets but for a character that they cut off, and the octets of
that character. -/
def decodeOpen (octets : List UInt8) : Except Utf8.Fault (Text × List UInt8) :=
  match Utf8.decode octets with
  | .ok text => .ok (text, [])
  | .error cause =>
    if cause.flaw = .truncated then do
      return (← Utf8.decode (octets.take cause.position), octets.drop cause.position)
    else .error cause

/-- What decoding has come to: the octets of a character that is cut off, a carriage
return that a newline may follow, and the size of the last block in octets and in
characters. -/
structure Decoding where
  cutOff : List UInt8 := []
  heldReturn : Bool := false
  octetCount : Nat := 0
  charCount : Nat := 0

/-- The number of octets in the next block, when a number of characters is wanted: as
many as these take if they are like those of the last block, and no fewer than the
least number. -/
def Decoding.nextLength (decoding : Decoding) (wanted : Nat) : Nat :=
  max blockLength (decoding.octetCount * wanted / decoding.charCount)

/-- The text of the blocks of a file, after a number of characters, and what ends it
early. -/
def decodeBlocks (decoding : Decoding) (count : Nat) :
    Nat → List UInt8 → Text × Option Utf8.Fault
  | 0, _ => ([], none)
  | fuel + 1, octets =>
    if octets.isEmpty then
      match Utf8.decode decoding.cutOff with
      | .error cause => ([], some cause)
      | .ok _ => (if decoding.heldReturn then ['\n'] else [], none)
    else
      let length := decoding.nextLength (pieceLength - count % pieceLength)
      let block := octets.take length
      match decodeOpen (decoding.cutOff ++ block) with
      | .error cause => ([], some cause)
      | .ok (text, cutOff) =>
        let held := if decoding.heldReturn && !text.isEmpty then '\r' :: text else text
        let holds := held.getLast? = some '\r'
        let shown := Text.normalizeLineEnds (if holds then held.dropLast else held)
        let next : Decoding :=
          { cutOff,
            heldReturn := holds || decoding.heldReturn && text.isEmpty,
            octetCount := block.length,
            charCount := shown.length }
        let (rest, ending) :=
          decodeBlocks next (count + shown.length) fuel (octets.drop length)
        (shown ++ rest, ending)

/-! ## Pieces -/

/-- Whether a character may stand in a YAML text at all. -/
def isAllowed (c : Char) : Bool :=
  let n := c.toNat
  c == '\t' || c == '\n' || c == '\r' || n == 0x85 || (0x20 ≤ n && n ≤ 0x7E)
    || (0xA0 ≤ n && n ≠ 0xFFFE && n ≠ 0xFFFF)

/-- The number of characters that are handed over when the one at a place can not
be: those of the pieces before its own, where the first two pieces count as one. -/
def handedBefore (place : Nat) : Nat :=
  if place < 2 * pieceLength then 0 else place / pieceLength * pieceLength

/-- A text as far as it can be handed over. -/
def ofText (text : Text) (ending : Option Fault) : Supply :=
  match text.findIdx? fun c => !isAllowed c with
  | some place => ⟨text.take (handedBefore place), some .malformed⟩
  | none => ⟨text, ending⟩

/-- The text of a file as far as it can be handed over. -/
def ofOctets (octets : List UInt8) : Supply :=
  match decodeBlocks {} 0 (octets.length + 1) octets with
  | (text, none) => ofText text none
  | (text, some cause) => ofText (text.take (handedBefore text.length)) (some (.undecodable cause))

example : (ofOctets [0x61, 0xC3]).ending = some (.undecodable ⟨0, 1, 0xC3, .truncated⟩) := by
  decide +kernel
example : (ofOctets [0x61, 0x0D, 0x0A, 0x62]).text = "a\nb".toList := by decide +kernel

end Supply

end RequestScript.Yaml
