/-
Writing values on one line, as far as the limits of texts and of the run
allow.

* `Halt`: why writing stops before the end of a value;
* `Written`: what was written, and why it stopped there, if it did;
* `writeValue`: a value in the style of one line in ASCII, lists and
  objects nested as deep as there is room for. What was written before it
  stopped stays written.
-/
import ApiBook.Json.Parser
import ApiBook.Json.Printer
import ApiBook.Number.Decimal

namespace ApiBook.Json

/-- Why writing stops: a number has too many digits, or lists and objects
are nested too deep. -/
inductive Halt where
  | digits
  | depth
  deriving DecidableEq, Repr

/-- What was written, and why writing stopped there, if it did. -/
structure Written where
  text : List Char
  halt? : Option Halt
  deriving DecidableEq, Repr

namespace Written

/-- A text that is written as a whole. -/
def whole (cs : List Char) : Written := ⟨cs, none⟩

/-- Nothing is written for some reason. -/
def stopped (h : Halt) : Written := ⟨[], some h⟩

/-- One thing after another; nothing more once writing has stopped. -/
def andThen (a b : Written) : Written :=
  match a.halt? with
  | none => ⟨a.text ++ b.text, b.halt?⟩
  | some h => ⟨a.text, some h⟩

end Written

/-- The mark before an item of a list, which is written together with a
number after it. -/
def markBefore (mark : List Char) : Value → Written
  | .number (.whole i) =>
    if Number.isWritable i then .whole mark else .stopped .digits
  | _ => .whole mark

mutual

/-- A value on one line of ASCII, in which lists and objects may be nested
`depth` times. -/
def writeValue (depth : Nat) : Value → Written
  | .list [] =>
    match depth with
    | 0 => .stopped .depth
    | _ + 1 => .whole ['[', ']']
  | .list (v :: vs) =>
    match depth with
    | 0 => .stopped .depth
    | depth + 1 =>
      (markBefore ['['] v).andThen ((writeValue depth v).andThen
        ((writeItems depth vs).andThen (.whole [']'])))
  | .object [] =>
    match depth with
    | 0 => .stopped .depth
    | _ + 1 => .whole ['{', '}']
  | .object ((k, v) :: ms) =>
    match depth with
    | 0 => .stopped .depth
    | depth + 1 =>
      (Written.whole ('{' :: printString true k ++ Style.ascii.colon)).andThen
        ((writeValue depth v).andThen
          ((writeMembers depth ms).andThen (.whole ['}'])))
  | .number (.whole i) =>
    if Number.isWritable i then .whole (Decimal.ofInt i)
    else .stopped .digits
  | v => .whole (printAt .ascii 0 v)

/-- The items of a list after the first one. -/
def writeItems (depth : Nat) : List Value → Written
  | [] => .whole []
  | v :: vs =>
    (markBefore Style.ascii.comma v).andThen
      ((writeValue depth v).andThen (writeItems depth vs))

/-- The members of an object after the first one. -/
def writeMembers (depth : Nat) : List (Text × Value) → Written
  | [] => .whole []
  | (k, v) :: ms =>
    (Written.whole (Style.ascii.comma ++ printString true k
      ++ Style.ascii.colon)).andThen
      ((writeValue depth v).andThen (writeMembers depth ms))

end

end ApiBook.Json
