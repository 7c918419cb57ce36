/-
What is wrong with a JSON text, and where.

* `Fault`: a cause, and how many code points of the text are left at the
  place it points to;
* `Fault.message`: the cause with line, column and offset;
* `Fault.breach?`: the limit that a text breaks which may be JSON for
  all that.
-/
import ApiBook.Number.Decimal
import ApiBook.Text.Basic

namespace ApiBook.Json

/-- Why a text cannot be read. -/
inductive Cause where
  | expectedValue
  | extraData
  | expectedComma
  | expectedColon
  | expectedName
  | unterminatedString
  | controlCharacter
  | unknownEscape
  | unicodeEscape
  | byteOrderMark
  | tooManyDigits (n : Nat)
  | tooDeep
  deriving DecidableEq, Repr

namespace Cause

/-- The wording of a cause. -/
def message : Cause → String
  | expectedValue => "Expecting value"
  | extraData => "Extra data"
  | expectedComma => "Expecting ',' delimiter"
  | expectedColon => "Expecting ':' delimiter"
  | expectedName => "Expecting property name enclosed in double quotes"
  | unterminatedString => "Unterminated string starting at"
  | controlCharacter => "Invalid control character at"
  | unknownEscape => "Invalid \\escape"
  | unicodeEscape => "Invalid \\uXXXX escape"
  | byteOrderMark => "Unexpected UTF-8 BOM (decode using utf-8-sig)"
  | tooDeep => "Nested too deeply"
  | tooManyDigits n => Number.unreadableText n

end Cause

/-- The limits that texts keep to besides the syntax: the digits of a
number, and the depth of nesting. -/
inductive Breach where
  | digits (n : Nat)
  | depth
  deriving DecidableEq, Repr

/-- A cause, and the number of code points left where it shows. -/
structure Fault where
  cause : Cause
  left : Nat
  deriving DecidableEq, Repr

namespace Fault

/-- The offset of a fault in a text, in code points from zero. -/
def offset (f : Fault) (text : Text) : Nat := text.toList.length - f.left

/-- The line of an offset, counted from one. -/
def line (text : Text) (offset : Nat) : Nat :=
  (text.toList.take offset).count (.char '\n') + 1

/-- The column of an offset, counted from one after the last line feed
before it. -/
def column (text : Text) (offset : Nat) : Nat :=
  ((text.toList.take offset).reverse.takeWhile (· != .char '\n')).length + 1

/-- The limit that a text breaks, where its syntax is not at fault. -/
def breach? (f : Fault) : Option Breach :=
  match f.cause with
  | .tooManyDigits n => some (.digits n)
  | .tooDeep => some .depth
  | _ => none

/-- The wording of a fault in a text. -/
def message (f : Fault) (text : Text) : String :=
  let place := f.offset text
  f.cause.message ++ ": line " ++ Decimal.text (line text place) ++ " column "
    ++ Decimal.text (column text place) ++ " (char " ++ Decimal.text place
    ++ ")"

end Fault

end ApiBook.Json
