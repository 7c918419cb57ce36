/-
Whole and floating-point numbers together, compared and counted as one
kind.

* `Number`: a number of either kind;
* `Number.lt`, `Number.le`: order by exact value, whatever the kinds;
* `Number.succ`: the number after a number.
-/
import ApiBook.Number.Binary64

namespace ApiBook

/-- A number of either kind. -/
inductive Number where
  | whole (i : Int)
  | float (x : Binary64)
  deriving DecidableEq

namespace Number

/-- A finite number as a signed numerator over a power of two. -/
def fraction? : Number → Option (Int × Nat)
  | whole i => some (i, 1)
  | float (.finite negative m e _) =>
    let (num, den) := Binary64.ratio m e
    some (if negative then -(num : Int) else num, den)
  | float _ => none

/-- Order of numbers by their exact values; what is no number is below
and above nothing. -/
def lt (x y : Number) : Bool :=
  match x, y with
  | float .nan, _ => false
  | _, float .nan => false
  | float (.infinite true), float (.infinite true) => false
  | float (.infinite true), _ => true
  | _, float (.infinite true) => false
  | float (.infinite false), _ => false
  | _, float (.infinite false) => true
  | x, y =>
    match x.fraction?, y.fraction? with
    | some (a, b), some (c, d) => a * d < c * b
    | _, _ => false

/-- At most: below or equal. -/
def le (x y : Number) : Bool :=
  match x, y with
  | float .nan, _ => false
  | _, float .nan => false
  | x, y => !y.lt x

/-- The number after a number: whole numbers grow exactly, floating-point
ones to the nearest. -/
def succ : Number → Number
  | whole i => whole (i + 1)
  | float x =>
    match (float x).fraction? with
    | some (a, b) =>
      let s := a + b
      float (Binary64.ofRatio (s < 0) s.natAbs b)
    | none => float x

end Number

end ApiBook
