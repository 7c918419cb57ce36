/-
The types of plain scalars, told from their form.

* `ScalarType`: what a scalar may stand for;
* `plainType`: the type of a scalar that is written without quotes.
-/
import ApiBook.Text.Digit
import ApiBook.Yaml.MomentForm

namespace ApiBook.Yaml

/-- What a scalar may stand for. -/
inductive ScalarType where
  | null
  | bool
  | whole
  | float
  | bytes
  | moment
  | text
  | merge
  | default
  | mark
  deriving DecidableEq, Repr

/-! ### Forms -/

/-- The words for nothing. -/
def nullWords : List String := ["", "~", "null", "Null", "NULL"]

/-- The words for the truth values, true ones first. -/
def boolWords : List (String × Bool) := [
  ("yes", true), ("Yes", true), ("YES", true), ("true", true),
  ("True", true), ("TRUE", true), ("on", true), ("On", true),
  ("ON", true), ("no", false), ("No", false), ("NO", false),
  ("false", false), ("False", false), ("FALSE", false), ("off", false),
  ("Off", false), ("OFF", false)]

/-- A text without a sign at its head. -/
def unsigned : List Char → List Char
  | '-' :: cs => cs
  | '+' :: cs => cs
  | cs => cs

/-- Whether a text has something in it, all of one class. -/
def isRun (p : Char → Bool) (cs : List Char) : Bool :=
  !cs.isEmpty && cs.all p

/-- A digit or an underscore. -/
def isSpacedDigit (c : Char) : Bool := c.isDigit || c = '_'

/-- Whether a text is a digit with spaced digits after it. -/
def isSpacedNumber : List Char → Bool
  | [] => false
  | c :: cs => c.isDigit && cs.all isSpacedDigit

/-- A number below sixty. -/
def isSixtieth : List Char → Bool
  | [a] => a.isDigit
  | [a, b] => '0' ≤ a && a ≤ '5' && b.isDigit
  | _ => false

/-- Whether a text without its sign has the form of a whole number. -/
def isWholeForm : List Char → Bool
  | '0' :: 'b' :: cs => isRun (fun c => c = '0' || c = '1' || c = '_') cs
  | '0' :: 'x' :: cs =>
    isRun (fun c => (Text.hexValue? c).isSome || c = '_') cs
  | ['0'] => true
  | '0' :: cs => cs.all fun c => ('0' ≤ c && c ≤ '7') || c = '_'
  | c :: cs =>
    if c.isDigit then
      match Text.split ':' cs with
      | first :: parts => first.all isSpacedDigit && parts.all isSixtieth
      | [] => false
    else false
  | [] => false

/-- Whether a text is a power of ten with a sign, or nothing. -/
def isPowerForm : List Char → Bool
  | [] => true
  | e :: sign :: ds =>
    (e = 'e' || e = 'E') && (sign = '+' || sign = '-')
      && isRun Char.isDigit ds
  | _ => false

/-- Whether a text is spaced digits and then perhaps a power. -/
def isFractionForm (cs : List Char) : Bool :=
  isPowerForm (cs.dropWhile isSpacedDigit)

/-- Whether a text without its sign has the form of a number with a
point: digits before it, in groups of sixty if there are colons. -/
def isPointForm (cs : List Char) : Bool :=
  match Text.breakAt? '.' cs with
  | none => false
  | some (before, after) =>
    match Text.split ':' before with
    | [whole] => isSpacedNumber whole && isFractionForm after
    | whole :: parts =>
      isSpacedNumber whole && parts.all isSixtieth
        && after.all isSpacedDigit
    | [] => false

/-- Whether a text begins with a point and a digit and has the form of
a number. -/
def isBarePointForm : List Char → Bool
  | '.' :: c :: cs => c.isDigit && isFractionForm cs
  | _ => false

/-- The words for infinity, after the sign. -/
def infinityWords : List String := [".inf", ".Inf", ".INF"]

/-- The words for what is no number. -/
def nanWords : List String := [".nan", ".NaN", ".NAN"]

/-- Whether a text has the form of a number with a point. -/
def isFloatForm (cs : List Char) : Bool :=
  isPointForm (unsigned cs) || isBarePointForm cs
    || infinityWords.contains (String.ofList (unsigned cs))
    || nanWords.contains (String.ofList cs)

/-- Whether a text is two digits. -/
def isTwoDigits : List Char → Bool
  | [a, b] => a.isDigit && b.isDigit
  | _ => false

/-- Whether a text is four digits, two and two, with hyphens between
them: the only form of a day without a time. -/
def isDayForm (cs : List Char) : Bool :=
  match Text.split '-' cs with
  | [year, month, day] =>
    year.length = 4 && year.all Char.isDigit && isTwoDigits month
      && isTwoDigits day
  | _ => false

/-- The marks that have a meaning of their own in a text. -/
def marks : List String := ["!", "&", "*"]

/-- The type of a text without a line feed at its end. -/
def typeOfLine (s : String) : ScalarType :=
  let cs := s.toList
  if nullWords.contains s then .null
  else if (boolWords.lookup s).isSome then .bool
  else if isFloatForm cs then .float
  else if isWholeForm (unsigned cs) then .whole
  else if isDayForm cs || (momentForm? cs).any (·.hasClock) then .moment
  else if s = "<<" then .merge
  else if s = "=" then .default
  else if marks.contains s then .mark
  else .text

/-- A text without the line feed at its end, if there is one. -/
def withoutLineFeed (s : String) : String :=
  if s.endsWith "\n" then String.ofList s.toList.dropLast else s

/-- The type of a scalar that is written without quotes. A line feed at
the end makes no difference, unless there is nothing else. -/
def plainType (s : String) : ScalarType :=
  if s = "\n" then .text else typeOfLine (withoutLineFeed s)

/-- The type of a text by its form; none has surrogates in it. -/
def typeOf (t : Text) : ScalarType :=
  match t.chars? with
  | some cs => plainType (String.ofList cs)
  | none => .text

end ApiBook.Yaml
