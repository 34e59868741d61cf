import RequestScript.Value

/-!
# The order of a set

A set shows its items in the order of the table that it keeps them in.  Every item has
a key, which is a word of 64 bits, and looks for a free place from where its key points
to: first there and in the places next to it, then from another place on, which is
computed from the last one and from the rest of the key.  The table has more than twice
as many places as there are items.

Numbers that are equal have the same key, however they are written.  A number is reduced
by a prime to which powers of two are easily reduced.

Main results:

- Definition {lit}`Scatter.key?`: the key of a number.
- Definition {lit}`Scatter.inOrder`: the items of a set in the order in which they are
  shown.
- Theorem {lit}`Scatter.inOrder_nil`: a set without items shows none.
-/

namespace RequestScript.Scatter

/-! ## Keys -/

/-- The number of bits in a residue. -/
def residueBits : Nat := 61

/-- The prime by which numbers are reduced. -/
def modulus : Nat := Nat.pow 2 residueBits - 1

/-- The number of keys. -/
def keyCount : Nat := Nat.pow 2 64

/-- A number times a power of two, reduced.  As many doublings as a residue has bits
change nothing. -/
def residue (number : Nat) (exponent : Int) : Nat :=
  number * Nat.pow 2 (exponent % (residueBits : Int)).toNat % modulus

/-- The key that belongs to a residue and a sign: a negative one is counted from the
end, and the last key is left out. -/
def keyOf (negative : Bool) (residue : Nat) : Nat :=
  if negative && residue ≠ 0 then keyCount - max 2 residue else residue

/-- The residue of what is greater than all numbers. -/
def infiniteResidue : Nat := 314159

/-- The key of a number.  Other values have none that can be told from outside. -/
def key? : Value → Option Nat
  | .bool value => some value.toNat
  | .int value => some (keyOf (value < 0) (residue value.natAbs 0))
  | .float (.finite negative significand exponent) =>
    some (keyOf negative (residue significand exponent))
  | .float (.infinite negative) => some (keyOf negative infiniteResidue)
  | _ => none

example : key? (.int (-1)) = key? (.int (-2)) := by decide +kernel
example : key? (.float (.finite false 1 (-1))) = some (Nat.pow 2 60) := by decide +kernel

/-! ## Places -/

/-- The number of places that are tried next to the first one. -/
def neighbours : Nat := 9

/-- The places that are tried from a place on; those next to it only if all of them are
there. -/
def tried (size place : Nat) : List Nat :=
  if place + neighbours < size then List.range' place (neighbours + 1) else [place]

/-- The first free place from a place on, where {lit}`rest` is what is left of the
key. -/
def freePlace (size : Nat) (taken : Nat → Bool) (place rest : Nat) : Nat → Nat
  | 0 => place
  | fuel + 1 =>
    match (tried size place).find? fun place => !taken place with
    | some free => free
    | none =>
      let rest := rest / 32
      freePlace size taken ((5 * place + 1 + rest) % size) rest fuel

/-- The number of places for a number of items: the least power of two that will do, and
at least eight. -/
def size (count : Nat) : Nat :=
  if count < 5 then 8 else Nat.pow 2 (Nat.log2 (2 * count) + 1)

/-- The number of tries after which a free place is found: until nothing is left of the
key, and then every place once. -/
def tries (size : Nat) : Nat :=
  size + 13

/-- Put an item into the first free place of its key. -/
def put {α : Type} (table : Array (Option α)) (key : Nat) (item : α) : Array (Option α) :=
  let taken (place : Nat) : Bool := ((table[place]?).join).isSome
  let place := freePlace table.size taken (key % table.size) key (tries table.size)
  table.setIfInBounds place (some item)

/-- Items with keys, in the order of a table. -/
def ofKeyed {α : Type} (items : List (Nat × α)) : List α :=
  let start : Array (Option α) := Array.replicate (size items.length) none
  let table := items.foldl (fun table item => put table item.1 item.2) start
  table.toList.filterMap id

/-- The items of a set in the order in which they are shown.  Where an item has no key
that can be told, they stay as they are written. -/
def inOrder (items : List Value) : List Value :=
  match items.mapM fun item => (key? item).map fun key => (key, item) with
  | some keyed => ofKeyed keyed
  | none => items

@[simp]
theorem inOrder_nil : inOrder [] = [] := rfl

example : ofKeyed [(9, 'a'), (1, 'b'), (0, 'c')] = ['c', 'a', 'b'] := by decide +kernel

end RequestScript.Scatter
