/-
Values as messages and titles show them: words for nothing and for the
truth values, texts in quotes inside a list or an object, and numbers in
their shortest writing.

* `Value.literal`: a value as it stands inside a message;
* `Value.display`: the same, but a text stands for itself.
-/
import ApiBook.Number.Shortest
import ApiBook.Text.Quoted
import ApiBook.Value.Basic

namespace ApiBook

/-- A number in writing. -/
def Number.text : Number → String
  | whole i => Decimal.text i
  | float x => x.text

namespace Value

mutual

/-- A value as it stands inside a message. -/
def literal : Value → String
  | .null => "None"
  | .bool b => if b then "True" else "False"
  | .number n => n.text
  | .text s => Text.quote s
  | .list items => "[" ++ ", ".intercalate (itemLiterals items) ++ "]"
  | .object ms => "\x7b" ++ ", ".intercalate (memberLiterals ms) ++ "\x7d"

/-- The items of a list, each as it stands inside a message. -/
def itemLiterals : List Value → List String
  | [] => []
  | v :: vs => v.literal :: itemLiterals vs

/-- The members of an object, each with its name in quotes. -/
def memberLiterals : List (Text × Value) → List String
  | [] => []
  | (k, v) :: ms =>
    (Text.quote k ++ ": " ++ v.literal) :: memberLiterals ms

end

/-- A value as a text of its own. -/
def display : Value → Text
  | .text s => s
  | v => v.literal

end Value

end ApiBook
