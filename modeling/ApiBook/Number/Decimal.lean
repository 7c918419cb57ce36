/-
Whole numbers in decimal digits.

* `Decimal.ofNat`, `Decimal.ofInt`: the digits of a number, without
  leading zeros, a minus sign before a negative one;
* `Decimal.toNat`: the number that a row of digits stands for;
* `Decimal.toNat_ofNat`: reading what was written gives the number back;
* `Number.digitLimit`: the greatest number of digits that whole numbers
  are read and written with, and what is said of those with more.
-/

namespace ApiBook

namespace Decimal

/-- The decimal digit of a value below ten. -/
def digit (n : Nat) : Char := Char.ofNat (48 + n)

/-- The digits of a number, most significant first. -/
def ofNat (n : Nat) : List Char :=
  if n < 10 then [digit n] else ofNat (n / 10) ++ [digit (n % 10)]

/-- The digits of a number, after a minus sign for a negative one. -/
def ofInt (i : Int) : List Char :=
  if i < 0 then '-' :: ofNat i.natAbs else ofNat i.natAbs

/-- The number that a row of digits stands for. -/
def toNat (cs : List Char) : Nat :=
  cs.foldl (fun acc c => 10 * acc + (c.toNat - 48)) 0

/-- The text of a number. -/
def text (i : Int) : String := String.ofList (ofInt i)

theorem toNat_append_digit (cs : List Char) {n : Nat} (h : n < 10) :
    toNat (cs ++ [digit n]) = 10 * toNat cs + n := by
  have : ∀ m < 10, (digit m).toNat - 48 = m := by decide
  simp [toNat, this n h]

/-- Reading what was written gives the number back. -/
theorem toNat_ofNat (n : Nat) : toNat (ofNat n) = n := by
  induction n using Nat.strongRecOn with
  | _ n ih =>
    rw [ofNat]
    split
    · rename_i h
      simpa [toNat] using toNat_append_digit [] h
    · rename_i h
      rw [toNat_append_digit _ (Nat.mod_lt _ (by omega)), ih _ (by omega)]
      omega

end Decimal

/-! ### The limit -/

namespace Number

/-- The greatest number of decimal digits that a whole number is read or
written with. -/
def digitLimit : Nat := 4300

/-- Whether a number has few enough digits to be written. -/
def isWritable (i : Int) : Bool := i.natAbs < Nat.pow 10 digitLimit

/-- The common head of what is said of numbers with too many digits. -/
def limitHead : String :=
  "Exceeds the limit (" ++ Decimal.text digitLimit
    ++ " digits) for integer string conversion"

/-- The common end of what is said of numbers with too many digits. -/
def limitTail : String :=
  "; use sys.set_int_max_str_digits() to increase the limit"

/-- What is said of a number with too many digits to be read. -/
def unreadableText (digits : Nat) : String :=
  limitHead ++ ": value has " ++ Decimal.text digits ++ " digits" ++ limitTail

/-- What is said of a number with too many digits to be written. -/
def unwritableText : String := limitHead ++ limitTail

end Number

end ApiBook
