/-
Reading decimals with a point or an exponent.

* `Binary64.ofText?`: the nearest number to an unsigned decimal, digits
  being needed on one side of the point only;
* `Binary64.neg`, `Binary64.add`, `Binary64.mul`: sign, and sum and
  product rounded to the nearest number.
-/
import ApiBook.Number.Basic
import ApiBook.Number.Decimal

namespace ApiBook.Binary64

/-! ### Reading -/

/-- The power of ten at the end of a decimal; nothing stands for the
power zero. -/
def powerOfText? : List Char → Option Int
  | [] => some 0
  | e :: cs =>
    if e = 'e' || e = 'E' then
      let (negative, digits) := match cs with
        | '-' :: ds => (true, ds)
        | '+' :: ds => (false, ds)
        | ds => (false, ds)
      if digits.isEmpty || !digits.all Char.isDigit then none
      else
        let n : Int := Decimal.toNat digits
        some (if negative then -n else n)
    else none

/-- The digits after a point, and what follows them. -/
def fractionOfText : List Char → List Char × List Char
  | '.' :: cs => (cs.takeWhile Char.isDigit, cs.dropWhile Char.isDigit)
  | cs => ([], cs)

/-- The number nearest to a decimal without a sign. -/
def ofText? (cs : List Char) : Option Binary64 := do
  let whole := cs.takeWhile Char.isDigit
  let (fraction, rest) := fractionOfText (cs.dropWhile Char.isDigit)
  if whole.isEmpty && fraction.isEmpty then none
  else
    let power ← powerOfText? rest
    return ofDecimal false (Decimal.toNat (whole ++ fraction))
      (power - fraction.length)

/-! ### Arithmetic -/

/-- The number with the other sign. -/
def neg : Binary64 → Binary64
  | nan => nan
  | infinite negative => infinite !negative
  | finite negative m e h => finite (!negative) m e h

/-- The number nearest to a signed quotient. -/
def ofFraction (num : Int) (den : Nat) : Binary64 :=
  ofRatio (num < 0) num.natAbs den

/-- The number nearest to the sum of two numbers. Opposite infinities
have no sum, and two negative zeros have a negative one. -/
def add (x y : Binary64) : Binary64 :=
  match x, y with
  | nan, _ => nan
  | _, nan => nan
  | infinite a, infinite b => if a = b then infinite a else nan
  | infinite a, _ => infinite a
  | _, infinite b => infinite b
  | finite a m e _, finite b n f _ =>
    let (num, den) := ratio m e
    let (num', den') := ratio n f
    let sum := (if a then -(num : Int) else num) * den'
      + (if b then -(num' : Int) else num') * den
    if sum = 0 then zero (a && b) else ofFraction sum (den * den')

/-- The number nearest to the product of two numbers. Zero and an
infinity have no product. -/
def mul (x y : Binary64) : Binary64 :=
  match x, y with
  | nan, _ => nan
  | _, nan => nan
  | infinite a, infinite b => infinite (a != b)
  | infinite a, finite b m _ _ => if m = 0 then nan else infinite (a != b)
  | finite a m _ _, infinite b => if m = 0 then nan else infinite (a != b)
  | finite a m e _, finite b n f _ =>
    let (num, den) := ratio m e
    let (num', den') := ratio n f
    ofRatio (a != b) (num * num') (den * den')

end ApiBook.Binary64
