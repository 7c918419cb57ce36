/-
Floating-point numbers of 64 bits, as exact values.

* `IsCanonical`: the pairs of mantissa and exponent that 64 bits can
  hold;
* `Binary64`: a number, an infinity, or no number;
* `Binary64.ofRatio`: the nearest number to a quotient, of two equally
  near ones the one with the even mantissa;
* `Binary64.ofDecimal`: the nearest number to a decimal;
* `Binary64.toInt?`: the whole number that a number is equal to.
-/

namespace ApiBook

/-! ### The numbers -/

/-- The first number with 53 bits. -/
def leastFull : Nat := 4503599627370496

/-- The first number with 54 bits. -/
def mantissaLimit : Nat := 9007199254740992

/-- A mantissa and an exponent of two that 64 bits can hold: 53 bits at
most, all of them in use unless the exponent is the least one. -/
def IsCanonical (m : Nat) (e : Int) : Prop :=
  (e = -1074 ∧ m < mantissaLimit) ∨
    (-1074 < e ∧ e ≤ 971 ∧ leastFull ≤ m ∧ m < mantissaLimit)

instance (m : Nat) (e : Int) : Decidable (IsCanonical m e) :=
  inferInstanceAs (Decidable (_ ∨ _))

/-- A floating-point number: a signed mantissa times a power of two, an
infinity, or no number. -/
inductive Binary64 where
  | nan
  | infinite (negative : Bool)
  | finite (negative : Bool) (mantissa : Nat) (exponent : Int)
      (canonical : IsCanonical mantissa exponent)
  deriving DecidableEq

namespace Binary64

instance : Inhabited Binary64 := ⟨nan⟩

/-- The number with a mantissa and an exponent; beyond the greatest
number lies infinity. -/
def ofParts (negative : Bool) (m : Nat) (e : Int) : Binary64 :=
  if h : IsCanonical m e then .finite negative m e h
  else .infinite negative

/-- Zero, which has a sign. -/
def zero (negative : Bool) : Binary64 := ofParts negative 0 (-1074)

/-! ### Rounding -/

/-- The whole number nearest to a quotient, the even one of two. -/
def nearestEven (num den : Nat) : Nat :=
  let q := num / den
  let r := num % den
  if 2 * r < den then q
  else if den < 2 * r then q + 1
  else q + q % 2

/-- The factor of a power that belongs to the numerator. -/
def power (base : Nat) (e : Int) : Nat := Nat.pow base e.toNat

/-- The factor of a power of two that belongs to the numerator. -/
def twoPow (e : Int) : Nat := power 2 e

/-- The power of two at or just below a positive quotient. -/
def floorLog2 (num den : Nat) : Int :=
  let k : Int := (num.log2 : Int) - (den.log2 : Int)
  if den * twoPow k ≤ num * twoPow (-k) then k else k - 1

/-- The number nearest to a quotient. -/
def ofRatio (negative : Bool) (num den : Nat) : Binary64 :=
  if num = 0 then zero negative
  else
    let e := max (floorLog2 num den - 52) (-1074)
    let m := nearestEven (num * twoPow (-e)) (den * twoPow e)
    if m = mantissaLimit then ofParts negative leastFull (e + 1)
    else ofParts negative m e

/-- The number nearest to `digits * 10 ^ e`. Decimals that are out of
reach on either side need no arithmetic. -/
def ofDecimal (negative : Bool) (digits : Nat) (e : Int) : Binary64 :=
  if digits = 0 then zero negative
  else if 400 < e then .infinite negative
  else if e + digits.log2 < -400 then zero negative
  else ofRatio negative (digits * power 10 e) (power 10 (-e))

/-- The number nearest to a whole number. -/
def ofInt (i : Int) : Binary64 := ofRatio (i < 0) i.natAbs 1

/-! ### Exact values -/

/-- The quotient that a magnitude stands for. -/
def ratio (m : Nat) (e : Int) : Nat × Nat := (m * twoPow e, twoPow (-e))

/-- The whole number that a finite number is equal to, if it is whole. -/
def toInt? : Binary64 → Option Int
  | finite negative m e _ =>
    let (num, den) := ratio m e
    if num % den = 0 then
      some (if negative then -((num / den : Nat) : Int) else (num / den : Nat))
    else none
  | _ => none

/-- Whether a number is neither infinite nor without a value. -/
def isFinite : Binary64 → Bool
  | finite .. => true
  | _ => false

end Binary64

end ApiBook
