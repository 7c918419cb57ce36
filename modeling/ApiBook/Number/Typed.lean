/-
Numbers as people type them: with blanks around them, a sign, digits of
any script, and underscores that group digits.

* `ungroup?`: the digits without the underscores between them;
* `Number.wholeOfTyped`: a whole number in some base, in at most 4300
  digits if the base is ten;
* `Number.floatOfTyped`: a number with a point or an exponent, or a word
  for an infinity or for what is no number;
* `Number.ofTyped?`: a number of the first kind that fits.
-/
import ApiBook.Number.Decimal
import ApiBook.Number.Reader
import ApiBook.Text.Pieces
import ApiBook.Text.Digit
import ApiBook.Text.Quoted

namespace ApiBook

namespace Number

/-! ### Faults -/

/-- Why a typed text is no number. -/
inductive TypedFault where
  | notWhole (base : Nat) (text : Text)
  | tooLong (digits : Nat)
  | notFloat (text : Text)
  deriving DecidableEq, Repr

/-- The greatest number of characters of a text that is shown as no whole
number, with its quotes. -/
def shownLength : Nat := 200

/-- The wording of a fault. -/
def TypedFault.message : TypedFault → String
  | notWhole base text =>
    "invalid literal for int() with base " ++ Decimal.text base ++ ": "
      ++ String.ofList ((Text.quote text).toList.take shownLength)
  | tooLong digits => unreadableText digits
  | notFloat text => "could not convert string to float: " ++ Text.quote text

/-! ### Digits -/

/-- What stands for a character that belongs to no number. -/
def foreignChar : Char := '?'

/-- A character in ASCII: a digit of any script as one of the ten ASCII
digits. -/
def plainChar (c : Char) : Char :=
  if c.toNat < 0x80 then c
  else match Text.decimalValue? c with
    | some n => Decimal.digit n
    | none => foreignChar

/-- A code point in ASCII. -/
def plainCode : Code → Char
  | .char c => plainChar c
  | .surrogate _ => foreignChar

/-- A typed text without the blanks around it, in ASCII. -/
def plainText (s : Text) : List Char :=
  (Text.trim (·.meets Text.isBlank) s.toList).map plainCode

/-- A text without the underscores in it, each of which has to stand
between two digits; `before` tells whether a digit came before. -/
def ungroupFrom? (isDigit : Char → Bool) (before : Bool) :
    List Char → Option (List Char)
  | [] => some []
  | c :: cs =>
    if c = '_' then
      if before && cs.head?.any isDigit then ungroupFrom? isDigit false cs
      else none
    else (ungroupFrom? isDigit (isDigit c) cs).map (c :: ·)

/-- A text without underscores between digits. -/
def ungroup? (isDigit : Char → Bool) (cs : List Char) :
    Option (List Char) :=
  ungroupFrom? isDigit false cs

/-- A sign, which may be missing, and what follows it. -/
def takeSign : List Char → Bool × List Char
  | '-' :: cs => (true, cs)
  | '+' :: cs => (false, cs)
  | cs => (false, cs)

/-! ### Whole numbers -/

/-- The letter that marks a number in a base, after a zero. -/
def baseLetter? : Nat → Option Char
  | 2 => some 'b'
  | 8 => some 'o'
  | 16 => some 'x'
  | _ => none

/-- A text without the mark of its base, which may be missing; one
underscore may follow it. -/
def dropBaseMark (base : Nat) : List Char → List Char
  | '0' :: c :: cs =>
    if baseLetter? base = some c.toLower then
      match cs with
      | '_' :: ds => ds
      | ds => ds
    else '0' :: c :: cs
  | cs => cs

/-- Whether a character is a digit in a base. -/
def isDigitIn (base : Nat) (c : Char) : Bool :=
  (Text.hexValue? c).any (· < base)

/-- The number that digits stand for in a base. -/
def inBase (base : Nat) (cs : List Char) : Nat :=
  cs.foldl (fun acc c => base * acc + (Text.hexValue? c).getD 0) 0

/-- The whole number that a typed text stands for in a base. The digits
are counted before what follows them is looked at. -/
def wholeOfTyped (base : Nat) (s : Text) : Except TypedFault Int :=
  let (negative, cs) := takeSign (plainText s)
  let cs := dropBaseMark base cs
  let run := cs.takeWhile fun c => isDigitIn base c || c = '_'
  match ungroup? (isDigitIn base) run with
  | none => .error (.notWhole base s)
  | some digits =>
    if base = 10 && digitLimit < digits.length then
      .error (.tooLong digits.length)
    else if digits.isEmpty || run.length < cs.length then
      .error (.notWhole base s)
    else
      let n : Int := inBase base digits
      .ok (if negative then -n else n)

/-! ### Floating-point numbers -/

/-- The words for an infinity. -/
def infinityWords : List String := ["inf", "infinity"]

/-- The magnitude that a typed text without a sign stands for. -/
def magnitudeOfTyped? (cs : List Char) : Option Binary64 :=
  let word := String.ofList (cs.map Char.toLower)
  if infinityWords.contains word then some (.infinite false)
  else if word = "nan" then some .nan
  else (ungroup? Char.isDigit cs).bind Binary64.ofText?

/-- The number with a point or an exponent that a typed text stands
for. -/
def floatOfTyped (s : Text) : Except TypedFault Binary64 :=
  let (negative, cs) := takeSign (plainText s)
  match magnitudeOfTyped? cs with
  | none => .error (.notFloat s)
  | some x => .ok (if negative then x.neg else x)

/-! ### Numbers of either kind -/

/-- The number that a typed text stands for. -/
def ofTyped? (s : Text) : Option Number :=
  match wholeOfTyped 10 s with
  | .ok i => some (.whole i)
  | .error _ => (floatOfTyped s).toOption.map .float

end Number

end ApiBook
