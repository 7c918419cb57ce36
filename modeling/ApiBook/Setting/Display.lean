/-
Settings as messages and titles show them. A number may have too many
digits to be written, and then nothing that holds it can be shown.

* `Setting.literal?`: a setting as it stands inside a message, with dots in
  the place of what is shown already around them;
* `Setting.display?`: the same, but texts, days and moments stand for
  themselves.
-/
import ApiBook.Number.Decimal
import ApiBook.Setting.Basic
import ApiBook.Value.Display

namespace ApiBook

namespace Scalar

/-- A scalar as it stands inside a message. -/
def literal? : Scalar → Option String
  | number (.whole i) =>
    if Number.isWritable i then some (Decimal.text i) else none
  | number (.float x) => some x.text
  | null => some Value.null.literal
  | bool b => some (Value.bool b).literal
  | text s => some (Text.quote s)
  | bytes bs => some (Text.quoteBytes bs)
  | date d => some d.literal
  | moment m => some m.literal

/-- A scalar as a text of its own. -/
def display? : Scalar → Option Text
  | text s => some s
  | date d => some d.text
  | moment m => some m.text
  | s => s.literal?.map Text.ofString

end Scalar

namespace Setting

/-- Literals in brackets. -/
def enclosed (first last : String) (literals : List String) : String :=
  first ++ ", ".intercalate literals ++ last

/-- Literals in the brackets of a list. -/
def listLiteral : List String → String := enclosed "[" "]"

/-- Literals in the brackets of a table. -/
def tableLiteral : List String → String := enclosed "\x7b" "\x7d"

/-- The members of a set; one without members has a name. -/
def setLiteral (literals : List String) : String :=
  if literals.isEmpty then "set()" else tableLiteral literals

/-- What stands in the place of what is shown around it. -/
def dots : List String := ["..."]

mutual

/-- A setting as it stands inside a message, with tables and lists around it
that have the marks `above`. -/
def literalIn? (above : List Nat) : Setting → Option String
  | .scalar s => s.literal?
  | .list items => (itemLiterals? above items).map listLiteral
  | .pair v w => do
    return enclosed "(" ")" [← v.literalIn? above, ← w.literalIn? above]
  | .set members => (members.mapM Scalar.literal?).map setLiteral
  | .table es => (entryLiterals? above es).map tableLiteral
  | .shared mark es =>
    if above.contains mark then some (tableLiteral dots)
    else (entryLiterals? (mark :: above) es).map tableLiteral
  | .looped mark items =>
    if above.contains mark then some (listLiteral dots)
    else (itemLiterals? (mark :: above) items).map listLiteral
  | .again _ isTable =>
    some (if isTable then tableLiteral dots else listLiteral dots)

/-- The items of a list, each as it stands inside a message. -/
def itemLiterals? (above : List Nat) :
    List Setting → Option (List String)
  | [] => some []
  | v :: vs => do
    return (← v.literalIn? above) :: (← itemLiterals? above vs)

/-- The entries of a table, each with its key. -/
def entryLiterals? (above : List Nat) :
    List (Scalar × Setting) → Option (List String)
  | [] => some []
  | (k, v) :: es => do
    return ((← k.literal?) ++ ": " ++ (← v.literalIn? above))
      :: (← entryLiterals? above es)

end

/-- A setting as it stands inside a message. -/
def literal? (v : Setting) : Option String := v.literalIn? []

/-- A setting as a text of its own. -/
def display? : Setting → Option Text
  | .scalar s => s.display?
  | v => v.literal?.map Text.ofString

end Setting

end ApiBook
