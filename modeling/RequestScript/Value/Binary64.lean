import RequestScript.Text.Decimal

/-!
# Binary floating-point numbers

A number with a fraction is kept as the double-precision number nearest to it and
is shown with the fewest digits that read back as the same number.  All of it is
exact arithmetic on natural numbers.

Main results:

- Definition {lit}`Binary64.ofRatio`: the double nearest to a fraction, ties to
  the even significand.
- Definition {lit}`Binary64.add` and definition {lit}`Binary64.mul`: sums and
  products, rounded in the same way.
- Definition {lit}`Binary64.shortest`: the fewest digits that read back.
- Definition {lit}`Binary64.text`: the written form.
-/

namespace RequestScript

/-- A double-precision number.  A finite one is its significand times a power of
two; the significand has 53 bits, or fewer at the least exponent. -/
inductive Binary64 where
  | finite (negative : Bool) (significand : Nat) (exponent : Int)
  | infinite (negative : Bool)
  | nan
deriving DecidableEq, Repr

namespace Binary64

/-- The number of significands: every significand is less. -/
def significandBound : Nat := Nat.pow 2 53

/-- The least exponent of two. -/
def minExponent : Int := -1074

/-- The greatest exponent of two. -/
def maxExponent : Int := 971

/-- The number zero. -/
def zero (negative : Bool) : Binary64 :=
  .finite negative 0 minExponent

/-- A fraction times a power of a base, as a fraction. -/
def scale (base num den : Nat) (exponent : Int) : Nat × Nat :=
  if 0 ≤ exponent then (num * Nat.pow base exponent.toNat, den)
  else (num, den * Nat.pow base (-exponent).toNat)

/-- The quotient rounded to the nearest natural number, ties to even. -/
def roundDiv (num den : Nat) : Nat :=
  let quotient := num / den
  let rest := num % den
  if 2 * rest < den then quotient
  else if 2 * rest > den then quotient + 1
  else quotient + quotient % 2

/-- The double nearest to a fraction. -/
def ofRatio (negative : Bool) (num den : Nat) : Binary64 :=
  if num = 0 then zero negative
  else
    let guess : Int := (Nat.log2 num : Int) - Nat.log2 den - 53
    let whole (exponent : Int) : Nat :=
      let (n, d) := scale 2 num den (-exponent)
      n / d
    let exponent := max minExponent (if whole guess < significandBound then guess else guess + 1)
    let (n, d) := scale 2 num den (-exponent)
    let significand := roundDiv n d
    let (significand, exponent) :=
      if significand = significandBound then (significandBound / 2, exponent + 1) else (significand, exponent)
    if exponent > maxExponent then .infinite negative
    else .finite negative significand exponent

/-- The double nearest to a decimal number: its digits times a power of ten.
Numbers far outside the range are not computed. -/
def ofDecimal (negative : Bool) (digits : Nat) (exponent : Int) : Binary64 :=
  let magnitude := ((Text.ofNat digits).length : Int) + exponent
  if digits = 0 || magnitude < -400 then zero negative
  else if magnitude > 400 then .infinite negative
  else
    let (num, den) := scale 10 digits 1 exponent
    ofRatio negative num den

/-- The magnitude of a finite number as a fraction. -/
def ratio (significand : Nat) (exponent : Int) : Nat × Nat :=
  scale 2 significand 1 exponent

/-- Change the sign. -/
def negate : Binary64 → Binary64
  | .finite negative significand exponent => .finite (!negative) significand exponent
  | .infinite negative => .infinite (!negative)
  | .nan => .nan

/-! ## Arithmetic -/

/-- A finite number as a fraction with its sign. -/
def signedRatio (negative : Bool) (significand : Nat) (exponent : Int) : Int × Nat :=
  let (num, den) := ratio significand exponent
  (if negative then -(num : Int) else num, den)

/-- The sum of two numbers.  A sum of zero is positive unless both numbers are
negative. -/
def add : Binary64 → Binary64 → Binary64
  | .finite s m p, .finite t n q =>
    let (a, b) := signedRatio s m p
    let (c, d) := signedRatio t n q
    let sum := a * d + c * b
    ofRatio (if sum = 0 then s && t else sum < 0) sum.natAbs (b * d)
  | .nan, _ => .nan
  | _, .nan => .nan
  | .infinite s, .infinite t => if s = t then .infinite s else .nan
  | .infinite s, .finite .. => .infinite s
  | .finite .., .infinite t => .infinite t

/-- The product of two numbers. -/
def mul : Binary64 → Binary64 → Binary64
  | .finite s m p, .finite t n q =>
    let (a, b) := ratio m p
    let (c, d) := ratio n q
    ofRatio (s != t) (a * c) (b * d)
  | .nan, _ => .nan
  | _, .nan => .nan
  | .infinite s, .infinite t => .infinite (s != t)
  | .infinite s, .finite t n _ => if n = 0 then .nan else .infinite (s != t)
  | .finite s m _, .infinite t => if m = 0 then .nan else .infinite (s != t)

/-- The double nearest to a natural number, if there is one. -/
def ofNat? (n : Nat) : Option Binary64 :=
  match ofRatio false n 1 with
  | .finite negative significand exponent => some (.finite negative significand exponent)
  | _ => none

/-! ## Written form -/

/-- The power of ten of the first digit of a positive fraction, searched from an
estimate downwards. -/
def decimalPoint (num den : Nat) : Nat → Int → Int
  | 0, guess => guess
  | fuel + 1, guess =>
    let (n, d) := scale 10 num den (-guess)
    if n < d then decimalPoint num den fuel (guess - 1) else guess

/-- The digits of a positive number, as a natural number and a power of ten, when
{lit}`count` digits are enough to read it back.  Of two that do, the nearer is
meant, and of two equally near ones the even one. -/
def digitsAt (significand : Nat) (exponent : Int) (point : Int) (count : Nat) :
    Option (Nat × Int) :=
  let power := point - count + 1
  let (num, den) := ratio significand exponent
  let (n, d) := scale 10 num den (-power)
  let below := n / d
  let readsBack (digits : Nat) : Bool :=
    ofDecimal false digits power == .finite false significand exponent
  let belowNearer := 2 * (n % d) < d || (2 * (n % d) = d && below % 2 = 0)
  match readsBack below, readsBack (below + 1) with
  | true, true => some (if belowNearer then below else below + 1, power)
  | true, false => some (below, power)
  | false, true => some (below + 1, power)
  | false, false => none

/-- The fewest digits that read back as a positive number, and the power of ten
that they are multiplied by. -/
def shortest (significand : Nat) (exponent : Int) : Nat × Int :=
  let (num, den) := ratio significand exponent
  let estimate : Int := ((Nat.log2 num : Int) - Nat.log2 den + 1) * 30103 / 100000 + 1
  let point := decimalPoint num den 4 estimate
  ((List.range 17).findSome? fun count => digitsAt significand exponent point (count + 1)).getD
    (0, 0)

/-- Write digits with a point after the first {lit}`whole` of them. -/
def positional (digits : Text) (whole : Int) : Text :=
  if whole ≤ 0 then "0.".toList ++ List.replicate (-whole).toNat '0' ++ digits
  else
    let fraction := digits.drop whole.toNat
    digits.take whole.toNat ++ List.replicate (whole.toNat - digits.length) '0'
      ++ '.' :: if fraction.isEmpty then ['0'] else fraction

/-- Write digits with one before the point and a power of ten of at least two
digits. -/
def scientific (digits : Text) (power : Int) : Text :=
  let fraction := digits.drop 1
  digits.take 1 ++ (if fraction.isEmpty then [] else '.' :: fraction)
    ++ (if power < 0 then "e-".toList else "e+".toList) ++ Text.padded 10 2 power.natAbs

/-- The written form: numbers from 0.0001 up to 16 digits before the point are
written out, others with a power of ten. -/
def text : Binary64 → Text
  | .nan => "nan".toList
  | .infinite negative => (if negative then ['-'] else []) ++ "inf".toList
  | .finite negative significand exponent =>
    (if negative then ['-'] else []) ++
      if significand = 0 then "0.0".toList
      else
        let (digits, power) := shortest significand exponent
        let shown := Text.ofNat digits
        let first := power + shown.length - 1
        let trimmed := Text.stripEnd (· == '0') shown
        if -4 ≤ first && first < 16 then positional trimmed (first + 1)
        else scientific trimmed first

/-! ## Reading -/

/-- The power of ten after a number, if it is well formed. -/
def readPower : Text → Option Int
  | [] => some 0
  | mark :: rest =>
    if mark = 'e' || mark = 'E' then
      match rest with
      | '-' :: digits => (Text.readNat 10 digits).map fun n => -(n : Int)
      | '+' :: digits => (Text.readNat 10 digits).map fun n => (n : Int)
      | digits => (Text.readNat 10 digits).map fun n => (n : Int)
    else none

/-- A decimal number without its sign: digits with or without a point, and a
power of ten. -/
def readUnsigned (negative : Bool) (text : Text) : Option Binary64 := do
  let whole := text.takeWhile Char.isDigit
  let rest := text.dropWhile Char.isDigit
  let (fraction, rest) :=
    match rest with
    | '.' :: rest => (rest.takeWhile Char.isDigit, rest.dropWhile Char.isDigit)
    | rest => ([], rest)
  let digits ← Text.readNat 10 (whole ++ fraction)
  let power ← readPower rest
  return ofDecimal negative digits (power - fraction.length)

/-- A number without its sign, or the word for one that is not finite. -/
def readMagnitude (negative : Bool) (text : Text) : Option Binary64 :=
  if text = "inf".toList || text = "infinity".toList then some (.infinite negative)
  else if text = "nan".toList then some .nan
  else readUnsigned negative text

/-- The number that a text in lower case spells. -/
def read (text : Text) : Option Binary64 :=
  match text with
  | '-' :: rest => readMagnitude true rest
  | '+' :: rest => readMagnitude false rest
  | rest => readMagnitude false rest

example : (read "1.50".toList).map Binary64.text = some "1.5".toList := by decide +kernel
example : (read "1e16".toList).map Binary64.text = some "1e+16".toList := by decide +kernel
example : (read "4.375e14".toList).map Binary64.text = some "437500000000000.0".toList := by
  decide +kernel
example : (read "167161087466603.375".toList).map Binary64.text
    = some "167161087466603.38".toList := by decide +kernel
example : (read "0.1".toList).map Binary64.text = some "0.1".toList := by decide +kernel
example : (read "123456.789e3".toList).map Binary64.text = some "123456789.0".toList := by
  decide +kernel

end Binary64

end RequestScript
