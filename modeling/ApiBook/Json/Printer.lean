/-
Writing values as JSON.

* `Style`: how much space is written, and which characters are escaped;
* `Style.compact`, `Style.indented`, `Style.ascii`: the three styles in
  use;
* `print`: a value in a style.
-/
import ApiBook.Number.Shortest
import ApiBook.Text.Digit
import ApiBook.Text.Utf16
import ApiBook.Value.Basic

namespace ApiBook.Json

/-- How JSON is laid out. -/
structure Style where
  /-- Spaces by which each level is indented, one member to a line. -/
  indent : Option Nat
  /-- What stands between two members on one line. -/
  comma : List Char
  /-- What stands after the name of a member. -/
  colon : List Char
  /-- Whether only printable ASCII characters are written as they
  are. -/
  asciiOnly : Bool

namespace Style

/-- No space at all. -/
def compact : Style := ⟨none, [','], [':'], false⟩

/-- One member to a line, `n` spaces for each level. -/
def indented (n : Nat) : Style := ⟨some n, [','], [':', ' '], false⟩

/-- One line with a space after each mark, all of it ASCII. -/
def ascii : Style := ⟨none, [',', ' '], [':', ' '], true⟩

end Style

/-! ### Strings -/

/-- The letter that stands for a character after a backslash. -/
def escapeLetter? (c : Char) : Option Char :=
  if c = '"' then some '"'
  else if c = '\\' then some '\\'
  else if c.toNat = 8 then some 'b'
  else if c.toNat = 12 then some 'f'
  else if c = '\n' then some 'n'
  else if c = '\r' then some 'r'
  else if c = '\t' then some 't'
  else none

/-- A code unit as a numeric escape. -/
def unitEscape (n : Nat) : List Char := '\\' :: 'u' :: Text.hexPadded 4 n

/-- A character inside a string. -/
def escapeChar (asciiOnly : Bool) (c : Char) : List Char :=
  match escapeLetter? c with
  | some letter => ['\\', letter]
  | none =>
    if c.toNat < 0x20 then unitEscape c.toNat
    else if asciiOnly && 0x7F ≤ c.toNat then
      if c.toNat < 0x10000 then unitEscape c.toNat
      else unitEscape (Text.pairOf c).1 ++ unitEscape (Text.pairOf c).2
    else [c]

/-- A code point inside a string. A surrogate that stands alone can only
be written as an escape. -/
def escapeCode (asciiOnly : Bool) : Code → List Char
  | .char c => escapeChar asciiOnly c
  | .surrogate n => unitEscape (Code.surrogateBase + n)

/-- A text as a string. -/
def printString (asciiOnly : Bool) (t : Text) : List Char :=
  '"' :: t.toList.flatMap (escapeCode asciiOnly) ++ ['"']

/-! ### Values -/

/-- A number: what is no number, and the infinities, are words. -/
def printNumber : Number → List Char
  | .whole i => Decimal.ofInt i
  | .float .nan => "NaN".toList
  | .float (.infinite negative) =>
    (if negative then "-Infinity" else "Infinity").toList
  | .float x => x.text.toList

/-- The start of a new line at a level, where members have lines of
their own. -/
def lineStart (style : Style) (level : Nat) : List Char :=
  match style.indent with
  | none => []
  | some n => '\n' :: List.replicate (n * level) ' '

mutual

/-- A value at a level of nesting. -/
def printAt (style : Style) (level : Nat) : Value → List Char
  | .null => "null".toList
  | .bool b => (if b then "true" else "false").toList
  | .number n => printNumber n
  | .text s => printString style.asciiOnly s
  | .list [] => ['[', ']']
  | .list (v :: vs) =>
    '[' :: lineStart style (level + 1) ++ printAt style (level + 1) v
      ++ printItems style (level + 1) vs ++ lineStart style level ++ [']']
  | .object [] => ['{', '}']
  | .object ((k, v) :: ms) =>
    '{' :: lineStart style (level + 1)
      ++ printString style.asciiOnly k ++ style.colon
      ++ printAt style (level + 1) v
      ++ printMembers style (level + 1) ms ++ lineStart style level ++ ['}']

/-- The items of a list after the first one. -/
def printItems (style : Style) (level : Nat) : List Value → List Char
  | [] => []
  | v :: vs =>
    style.comma ++ lineStart style level ++ printAt style level v
      ++ printItems style level vs

/-- The members of an object after the first one. -/
def printMembers (style : Style) (level : Nat) :
    List (Text × Value) → List Char
  | [] => []
  | (k, v) :: ms =>
    style.comma ++ lineStart style level
      ++ printString style.asciiOnly k ++ style.colon
      ++ printAt style level v ++ printMembers style level ms

end

/-- A value in a style. -/
def print (style : Style) (v : Value) : String :=
  String.ofList (printAt style 0 v)

end ApiBook.Json
