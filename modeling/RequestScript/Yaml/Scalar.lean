import RequestScript.Text.Lower
import RequestScript.Text.Numeral
import RequestScript.Value
import RequestScript.Yaml.Tag

/-!
# What a scalar stands for

A scalar stands for a value of the kind that its tag says.  A tag that is found from
the form of the scalar always fits, but for truth values and special numbers with a
newline at their end; a given tag may not fit, and then the fault says why.

Main results:

- Definition {lit}`scalarValue`: the value of a text with a tag.
-/

namespace RequestScript.Yaml

/-! ## Whole numbers -/

/-- A whole number to a base, or the fault. -/
def digitsTo (base : Nat) (text : Text) : Except Fault Int :=
  match Text.readInteger base text with
  | .ok n => .ok n
  | .error .malformed => .error (.notInt base text)
  | .error (.tooLong count) => .error (.tooManyDigits count)

/-- A whole number without underscores and sign. -/
def unsignedInt (text : Text) : Except Fault Int :=
  match text with
  | [] => .error .noDigits
  | ['0'] => .ok 0
  | '0' :: 'b' :: rest => digitsTo 2 rest
  | '0' :: 'x' :: rest => digitsTo 16 rest
  | '0' :: _ => digitsTo 8 text
  | _ =>
    if text.contains ':' then
      (text.splitOn ':').foldlM (fun value part => do return value * 60 + (← digitsTo 10 part)) 0
    else digitsTo 10 text

/-- A text without the underscores that group digits. -/
def ungrouped (text : Text) : Text :=
  Text.without (· == '_') text

/-- The whole number that a scalar stands for. -/
def intValue (text : Text) : Except Fault Int := do
  match ungrouped text with
  | [] => .error .noDigits
  | '-' :: rest => return -(← unsignedInt rest)
  | '+' :: rest => unsignedInt rest
  | rest => unsignedInt rest

/-! ## Numbers with a point -/

/-- A decimal number with or without a point, or the fault. -/
def decimal (text : Text) : Except Fault Binary64 :=
  match Binary64.read (Text.plainNumber text) with
  | some value => .ok value
  | none => .error (.notFloat text)

/-- The sum of digits to the base sixty, the least one first; {lit}`worth` is what the
first digit counts for. -/
def sexagesimalSum (sum : Binary64) (worth : Nat) : List Binary64 → Except Fault Binary64
  | [] => .ok sum
  | digit :: rest =>
    match Binary64.ofNat? worth with
    | none => .error .tooLargeForFloat
    | some factor => sexagesimalSum (sum.add (digit.mul factor)) (worth * 60) rest

/-- The word for a number that is none. -/
def nanWord : Text := ".nan".toList

/-- A number with a point without underscores and sign. -/
def unsignedFloat (text : Text) : Except Fault Binary64 :=
  if text = ".inf".toList then .ok (.infinite false)
  else if text = nanWord then .ok .nan
  else if text.contains ':' then do
    let digits ← (text.splitOn ':').mapM decimal
    sexagesimalSum (.zero false) 1 digits.reverse
  else decimal text

/-- The text of a number with a point as it is read: without underscores, and in lower
case. -/
def floatText (text : Text) : Text :=
  Text.lower (ungrouped text)

/-- The number with a point that a scalar stands for. -/
def floatValue (text : Text) : Except Fault Binary64 := do
  match floatText text with
  | [] => .error .noDigits
  | '-' :: rest => return (← unsignedFloat rest).negate
  | '+' :: rest => unsignedFloat rest
  | rest => unsignedFloat rest

/-- Whether a scalar is the word for a number that is none, with or without a sign. -/
def isNanWord (text : Text) : Bool :=
  afterSign (floatText text) = nanWord

/-! ## Other scalars -/

/-- The date or the moment that a scalar stands for.  A newline at its end is not looked
at. -/
def timeValue (text : Text) : Except Fault Value :=
  let fit {α : Type} (make : α → Value) : Except CalendarFault α → Except Fault Value
    | .ok value => .ok (make value)
    | .error cause => .error (.calendar cause)
  match timeParts (withoutLastNewline text) with
  | none => .error .notTime
  | some ⟨year, month, day, none⟩ => fit .date (Date.make year month day)
  | some ⟨year, month, day, some (hour, minute, second, fraction, offset)⟩ =>
    let digits := fraction.take 6 ++ List.replicate (6 - fraction.length) '0'
    fit .moment
      (Moment.make year month day hour minute second ((Text.readNat 10 digits).getD 0) offset)

/-- The truth value that a scalar stands for. -/
def boolValue (text : Text) : Except Fault Bool :=
  let word := Text.lower text
  if trueWords.contains word then .ok true
  else if falseWords.contains word then .ok false
  else .error (.notBool word)

/-- The octets that a scalar stands for. -/
def octetsValue (text : Text) : Except Fault (List UInt8) :=
  if text.all fun c => c.toNat < 0x80 then
    match Octets.read text with
    | some octets => .ok octets
    | none => .error .malformed
  else .error .malformed

/-- The value of a text with a tag. -/
def scalarValue (tag : Tag) (text : Text) : Except Fault Value :=
  match tag with
  | .null => .ok .null
  | .bool => .bool <$> boolValue text
  | .int => .int <$> intValue text
  | .float => .float <$> floatValue text
  | .binary => .octets <$> octetsValue text
  | .timestamp => timeValue text
  | .str => .ok (.text text)
  | _ => .error .malformed

@[simp]
theorem scalarValue_str (text : Text) : scalarValue .str text = .ok (.text text) := rfl

@[simp]
theorem scalarValue_null (text : Text) : scalarValue .null text = .ok .null := rfl

end RequestScript.Yaml
