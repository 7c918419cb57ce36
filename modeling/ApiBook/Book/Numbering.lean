/-
The number that follows the chapters of a book.

* `sectionItems`: what the sections of a book hold;
* `leadingNumber?`: the first number of an item, if the item is a
  numbered chapter;
* `nextNumber`: one more than the greatest of these numbers.
-/
import ApiBook.Value.Basic

namespace ApiBook.Book

/-- Why a book cannot be numbered or added to. -/
inductive BookFault where
  | notObject
  | sectionsNotIterable
  | sectionsNotList
  | chapterNotObject
  | numberNotList
  | numberIsObject
  | notNumber
  deriving DecidableEq, Repr

/-- The sections of a book; a book without sections has an empty list of
them. -/
def sectionsOf (book : Members) : Value :=
  (Members.get? "sections" book).getD (.list [])

/-- The items that can be gone through in a value; texts and objects
hold only texts. -/
def sectionItems : Value → Except BookFault (List Value)
  | .list items => .ok items
  | .text s => .ok (s.toList.map fun c => .text (.ofList [c]))
  | .object ms => .ok (ms.map fun (k, _) => .text k)
  | _ => .error .sectionsNotIterable

/-- The first of the numbers of a chapter. -/
def firstOf : Value → Except BookFault Value
  | .list (v :: _) => .ok v
  | .text s => .ok (.text (.ofList (s.toList.take 1)))
  | .object _ => .error .numberIsObject
  | _ => .error .numberNotList

/-- The first number of an item: only chapters with numbers have one. -/
def leadingNumber? : Value → Except BookFault (Option Value)
  | .object ms =>
    match Members.get? "Chapter" ms with
    | none => .ok none
    | some (.object chapter) =>
      let number := (Members.get? "number" chapter).getD .null
      if number.isVoid then .ok none
      else match firstOf number with
        | .ok v => .ok (some v)
        | .error f => .error f
    | some _ => .error .chapterNotObject
  | _ => .ok none

/-- The first numbers of all chapters among some items. -/
def leadingNumbers : List Value → Except BookFault (List Value)
  | [] => .ok []
  | item :: items => do
    match ← leadingNumber? item with
    | some v => return v :: (← leadingNumbers items)
    | none => leadingNumbers items

/-- The greatest of some numbers, the first one of equals. -/
def greatest : List Number → Number
  | [] => .whole 0
  | n :: ns => ns.foldl (fun best m => if best.lt m then m else best) n

/-- Values as numbers; none of them may be anything else. -/
def allNumbers (vs : List Value) : Except BookFault (List Number) :=
  match vs.mapM Value.toNumber? with
  | some ns => .ok ns
  | none => .error .notNumber

/-- The number for the next chapter of a book. -/
def nextNumber (book : Members) : Except BookFault Number := do
  let items ← sectionItems (sectionsOf book)
  let numbers ← allNumbers (← leadingNumbers items)
  return (greatest numbers).succ

end ApiBook.Book
