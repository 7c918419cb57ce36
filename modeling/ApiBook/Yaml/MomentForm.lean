/-
The form of days and moments: year, month and day with hyphens between
them, and perhaps a clock and the difference from universal time.

* `MomentForm`: the numbers of a day, and what is said of the time;
* `momentForm?`: the numbers in a text;
* `MomentForm.scalar`: the day or the moment that they stand for.
-/
import ApiBook.Setting.Basic
import ApiBook.Text.Pieces
import ApiBook.Yaml.Token

namespace ApiBook.Yaml

/-! ### Numbers -/

/-- The time in a text. -/
structure ClockForm where
  hour : Nat
  minute : Nat
  second : Nat
  /-- The digits after the point of the seconds. -/
  fraction : List Char
  /-- The difference from universal time in minutes. -/
  offset : Option Int

/-- The numbers in a text with the form of a day or a moment. -/
structure MomentForm where
  year : Nat
  month : Nat
  day : Nat
  clock : Option ClockForm

/-- Whether a time is given. -/
def MomentForm.hasClock (f : MomentForm) : Bool := f.clock.isSome

/-- A number of at least `least` and at most `most` digits at the head
of a text, and what follows it. As many digits as can be are taken. -/
def takeNumber? (least most : Nat) (cs : List Char) :
    Option (Nat × List Char) :=
  let digits := (cs.take most).takeWhile Char.isDigit
  if digits.length < least then none
  else some (Decimal.toNat digits, cs.drop digits.length)

/-- What follows a character at the head of a text. -/
def after? (c : Char) : List Char → Option (List Char)
  | d :: cs => if d = c then some cs else none
  | [] => none

/-! ### Forms -/

/-- A space or a tab. -/
def isBlankSpace (c : Char) : Bool := c = ' ' || c = '\t'

/-- The difference from universal time at the end of a text, with space
before it; nothing stands for none. -/
def offsetForm? (cs : List Char) : Option (Option Int) :=
  match cs.dropWhile isBlankSpace with
  | [] => if cs.isEmpty then some none else none
  | ['Z'] => some (some 0)
  | sign :: rest =>
    if sign ≠ '+' && sign ≠ '-' then none
    else do
      let (hours, rest) ← takeNumber? 1 2 rest
      let minutes ← match rest with
        | [] => some 0
        | ':' :: rest =>
          match takeNumber? 2 2 rest with
          | some (n, []) => some n
          | _ => none
        | _ => none
      let n : Int := 60 * hours + minutes
      return some (if sign = '-' then -n else n)

/-- The digits after a point, which may be missing, and what follows
them. -/
def fractionForm : List Char → List Char × List Char
  | '.' :: cs => (cs.takeWhile Char.isDigit, cs.dropWhile Char.isDigit)
  | cs => ([], cs)

/-- What follows the letter or the space between a day and a time. -/
def afterDay? : List Char → Option (List Char)
  | c :: cs =>
    if c = 'T' || c = 't' then some cs
    else if isBlankSpace c then some (cs.dropWhile isBlankSpace)
    else none
  | [] => none

/-- The time at the end of a text. -/
def clockForm? (cs : List Char) : Option ClockForm := do
  let (hour, cs) ← takeNumber? 1 2 cs
  let (minute, cs) ← takeNumber? 2 2 (← after? ':' cs)
  let (second, cs) ← takeNumber? 2 2 (← after? ':' cs)
  let (fraction, cs) := fractionForm cs
  return ⟨hour, minute, second, fraction, ← offsetForm? cs⟩

/-- The numbers in a text with the form of a day or a moment. -/
def momentForm? (cs : List Char) : Option MomentForm := do
  let (year, cs) ← takeNumber? 4 4 cs
  let (month, cs) ← takeNumber? 1 2 (← after? '-' cs)
  let (day, cs) ← takeNumber? 1 2 (← after? '-' cs)
  if cs.isEmpty then return ⟨year, month, day, none⟩
  else return ⟨year, month, day, some (← clockForm? (← afterDay? cs))⟩

/-! ### What they stand for -/

/-- The number of millionths in the digits of a fraction; digits beyond
them are left out. -/
def millionths (digits : List Char) : Nat :=
  Decimal.toNat ((digits ++ List.replicate 6 '0').take 6)

/-- The moment with a day and a time. -/
def ClockForm.moment (f : ClockForm) (year month day : Nat) :
    Except Calendar.Fault Moment := do
  let offset ← match f.offset with
    | some o => (Moment.offset? o).map some
    | none => pure none
  Moment.ofParts (← Date.ofParts year month day) f.hour f.minute f.second
    (millionths f.fraction) offset

/-- The day or the moment that numbers stand for. -/
def MomentForm.scalar (f : MomentForm) : Except Calendar.Fault Scalar :=
  match f.clock with
  | none => (Date.ofParts f.year f.month f.day).map .date
  | some clock => (clock.moment f.year f.month f.day).map .moment

end ApiBook.Yaml
