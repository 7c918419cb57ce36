/-
The shortest decimal that reads back as a given floating-point number.

* `shortest`: the fewest digits that read back, and of those the nearest
  to the number;
* `Binary64.text`: the number in writing, positional while the decimal
  point lies near the digits, with an exponent otherwise.
-/
import ApiBook.Number.Binary64
import ApiBook.Number.Decimal

namespace ApiBook

/-- The decimal `digits * 10 ^ exponent`. -/
structure Scientific where
  digits : Nat
  exponent : Int
  deriving DecidableEq, Repr

namespace Scientific

/-- The power of ten at or just below a positive quotient: one of three
neighbours of the power of two turned into a power of ten. -/
def floorLog10 (num den : Nat) : Int :=
  let k := (Binary64.floorLog2 num den * 30103).fdiv 100000
  let reached := fun (j : Int) =>
    den * Binary64.power 10 j ≤ num * Binary64.power 10 (-j)
  if reached (k + 1) then k + 1
  else if reached k then k
  else k - 1

/-- The two decimals with exponent `k` next to a quotient, the nearer
one first. -/
def neighbours (num den : Nat) (k : Int) : List Scientific :=
  let a := num * Binary64.power 10 (-k)
  let b := den * Binary64.power 10 k
  let q := a / b
  if 2 * (a % b) < b || (2 * (a % b) == b && q % 2 == 0) then
    [⟨q, k⟩, ⟨q + 1, k⟩]
  else [⟨q + 1, k⟩, ⟨q, k⟩]

/-- The decimal that is exactly `m * 2 ^ e`. -/
def exact (m : Nat) (e : Int) : Scientific :=
  if 0 ≤ e then ⟨m * Binary64.power 2 e, 0⟩
  else ⟨m * Binary64.power 5 (-e), e⟩

/-- A decimal without zeros at the end of its digits. -/
def trimmed (d : Scientific) (fuel : Nat) : Scientific :=
  match fuel with
  | 0 => d
  | f + 1 =>
    if d.digits % 10 = 0 then trimmed ⟨d.digits / 10, d.exponent + 1⟩ f
    else d

end Scientific

/-- The decimal with the fewest digits that reads back as `m * 2 ^ e`,
the nearest one of these. Seventeen digits are always enough. -/
def shortest (m : Nat) (e : Int) : Scientific :=
  let num := (Binary64.ratio m e).1
  let den := (Binary64.ratio m e).2
  let x := Binary64.ofParts false m e
  let top := Scientific.floorLog10 num den
  let found := (List.range 17).findSome? fun (i : Nat) =>
    (Scientific.neighbours num den (top - i)).find? fun d =>
      Binary64.ofDecimal false d.digits d.exponent = x
  found.getD (Scientific.exact m e)

namespace Binary64

/-- An exponent in writing: a sign and two digits or more. -/
def exponentText (e : Int) : List Char :=
  let digits := Decimal.ofNat e.natAbs
  (if e < 0 then '-' else '+') ::
    (if digits.length < 2 then '0' :: digits else digits)

/-- Digits with the decimal point after the first `point` of them:
positional for points from -3 to 16, with an exponent elsewhere. -/
def layout (digits : List Char) (point : Int) : List Char :=
  if -4 < point && point ≤ 16 then
    if point ≤ 0 then
      '0' :: '.' :: List.replicate (-point).toNat '0' ++ digits
    else
      let n := point.toNat
      if digits.length ≤ n then
        digits ++ List.replicate (n - digits.length) '0' ++ ['.', '0']
      else digits.take n ++ '.' :: digits.drop n
  else
    digits.take 1 ++
      (if digits.length ≤ 1 then [] else '.' :: digits.drop 1) ++
      'e' :: exponentText (point - 1)

/-- The digits of a magnitude and where they lie. -/
def magnitudeText (m : Nat) (e : Int) : List Char :=
  if m = 0 then ['0', '.', '0']
  else
    let d := (shortest m e).trimmed 20
    let digits := Decimal.ofNat d.digits
    layout digits (digits.length + d.exponent)

/-- A floating-point number in writing. -/
def text : Binary64 → String
  | nan => "nan"
  | infinite negative => if negative then "-inf" else "inf"
  | finite negative m e _ =>
    String.ofList
      (if negative then '-' :: magnitudeText m e else magnitudeText m e)

end Binary64

end ApiBook
