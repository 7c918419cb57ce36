/-
Cutting rows of code points or characters, and putting texts together.

* `split`: the pieces between the occurrences of a separator, one more
  than there are separators; `breakAt?`: what comes before and after one;
* `trim`, `words`: a row without the outer members of a class, and the
  runs of those outside the class;
* `splitText`, `join`: the pieces of a text, and pieces with a separator
  between neighbours;
* `isBlank`, `isSpacing`: the Unicode property White_Space, and the class
  at which words are split.
-/
import ApiBook.Text.Basic

namespace ApiBook.Text

section Rows

variable {α : Type}

/-- The pieces between the occurrences of `sep`, empty ones included. -/
def split [DecidableEq α] (sep : α) : List α → List (List α)
  | [] => [[]]
  | c :: cs =>
    if c = sep then [] :: split sep cs
    else match split sep cs with
      | [] => [[c]]
      | piece :: pieces => (c :: piece) :: pieces

/-- What comes before and after the first occurrence of `sep`. -/
def breakAt? [DecidableEq α] (sep : α) :
    List α → Option (List α × List α)
  | [] => none
  | c :: cs =>
    if c = sep then some ([], cs)
    else (breakAt? sep cs).map fun (before, after) => (c :: before, after)

/-- What comes before and after the last occurrence of `sep`. -/
def breakAtLast? [DecidableEq α] (sep : α) (cs : List α) :
    Option (List α × List α) :=
  (breakAt? sep cs.reverse).map fun (before, after) =>
    (after.reverse, before.reverse)

/-- A row without the members of a class at either end. -/
def trim (p : α → Bool) (cs : List α) : List α :=
  (((cs.dropWhile p).reverse).dropWhile p).reverse

/-- The words of the rest of a row, `word` being the one that is open,
its last member first. -/
def wordsFrom (p : α → Bool) (word : List α) : List α → List (List α)
  | [] => if word.isEmpty then [] else [word.reverse]
  | c :: cs =>
    if p c then
      if word.isEmpty then wordsFrom p [] cs
      else word.reverse :: wordsFrom p [] cs
    else wordsFrom p (c :: word) cs

/-- The maximal runs of members outside a class, in order. -/
def words (p : α → Bool) (cs : List α) : List (List α) := wordsFrom p [] cs

end Rows

/-! ### Texts -/

/-- The pieces of a text between the occurrences of `sep`. -/
def splitText (sep : Code) (t : Text) : List Text :=
  (split sep t.toList).map ofList

/-- The pieces with `sep` between neighbours. -/
def join (sep : Text) : List Text → Text
  | [] => ""
  | [t] => t
  | s :: t :: rest => s ++ sep ++ join sep (t :: rest)

/-! ### Blanks -/

/-- The characters with the Unicode property White_Space. -/
def isBlank (c : Char) : Bool :=
  let n := c.toNat
  (0x9 ≤ n && n ≤ 0xD) || n == 0x20 || n == 0x85 || n == 0xA0 || n == 0x1680
    || (0x2000 ≤ n && n ≤ 0x200A) || n == 0x2028 || n == 0x2029
    || n == 0x202F || n == 0x205F || n == 0x3000

/-- Blank characters and the information separators U+001C to U+001F. -/
def isSpacing (c : Char) : Bool :=
  isBlank c || (0x1C ≤ c.toNat && c.toNat ≤ 0x1F)

end ApiBook.Text
