/-
The order of the members of a set.

Members stand in a table of slots, each in a slot that its hash leads to;
a set is gone through slot by slot. Numbers that are equal have the same
hash, whatever their kinds.

* `Scalar.hash?`: the hash of what counts as a number;
* `slotFor`: the slot of a member with a hash;
* `inSetOrder`: the members of a set, in order. Where one of them has no
  hash, they stand as they were given.
-/
import ApiBook.Setting.Basic

namespace ApiBook

/-! ### Hashes -/

/-- The prime that hashes are counted by, two to the power of 61 less
one. -/
def hashModulus : Nat := 2305843009213693951

/-- The number of powers of two that differ by their remainders. -/
def hashBits : Int := 61

/-- The hash of a number with a magnitude; minus one is kept free. -/
def signedHash (negative : Bool) (magnitude : Nat) : Int :=
  let n : Int := (magnitude % hashModulus : Nat)
  if !negative then n else if n = 1 then -2 else -n

/-- The hash of infinity. -/
def infinityHash : Nat := 314159

/-- The hash of a number. Where the number is a quotient, so is the
hash, among the remainders by the prime. -/
def Number.hash? : Number → Option Int
  | whole i => some (signedHash (i < 0) i.natAbs)
  | float (.finite negative m e _) =>
    some (signedHash negative (m * Nat.pow 2 (e % hashBits).toNat))
  | float (.infinite negative) => some (signedHash negative infinityHash)
  | float .nan => none

/-- The hash of a scalar that counts as a number. -/
def Scalar.hash? (s : Scalar) : Option Int := s.toNumber?.bind Number.hash?

/-! ### Slots -/

/-- The number of different words. -/
def wordCount : Int := 18446744073709551616

/-- The least size in a row of doubled ones that is above a bound. -/
def doubledAbove (bound : Nat) (fuel size : Nat) : Nat :=
  match fuel with
  | 0 => size
  | fuel + 1 =>
    if bound < size then size else doubledAbove bound fuel (2 * size)

/-- The size of the table for a number of members: twice as large, unless
there are few. -/
def tableSize (count : Nat) : Nat :=
  if count < 5 then 8 else doubledAbove (2 * count) count 8

/-- The number of slots that are looked at after one that is taken,
before the search goes on elsewhere. -/
def neighbours : Nat := 9

/-- The slots that are looked at together, from one on. -/
def slotsFrom (size slot : Nat) : List Nat :=
  if slot + neighbours < size then
    (List.range (neighbours + 1)).map (slot + ·)
  else [slot]

/-- The first free slot of a search that has come to a slot; `trace` is
what is left of the hash. -/
def freeSlot (size : Nat) (taken : List Nat) (fuel trace slot : Nat) :
    Nat :=
  match (slotsFrom size slot).find? (!taken.contains ·), fuel with
  | some free, _ => free
  | none, 0 => slot
  | none, fuel + 1 =>
    let trace := trace / 32
    freeSlot size taken fuel trace ((5 * slot + 1 + trace) % size)

/-- The slot of a member with a hash. -/
def slotFor (size : Nat) (taken : List Nat) (hash : Int) : Nat :=
  let word := (hash % wordCount).toNat
  freeSlot size taken (size + 13) word (word % size)

/-- The slots of members with hashes, which come one after another. -/
def slotsOf (size : Nat) (taken : List Nat) : List Int → List Nat
  | [] => []
  | hash :: hashes =>
    let slot := slotFor size taken hash
    slot :: slotsOf size (slot :: taken) hashes

/-! ### Order -/

/-- The members of a set, which are all different, in order. -/
def inSetOrder (members : List Scalar) : List Scalar :=
  match members.mapM Scalar.hash? with
  | none => members
  | some hashes =>
    let slots := slotsOf (tableSize members.length) [] hashes
    ((slots.zip members).mergeSort fun a b => a.1 ≤ b.1).map (·.2)

end ApiBook
