/-
Adding a part to a book.

* `InPlace`: work on a book that stays as it was left when a step of the
  work fails;
* `appendPart`: a title and chapters after the sections of a book, one
  item after the other;
* `addPart`: the chapters of a workspace, numbered on from the book, as
  a part of it.
-/
import ApiBook.Book.ChapterFault
import ApiBook.Book.Numbering

namespace ApiBook.Book

/-- Work on a book in place. A step that fails ends the work, but takes
nothing back that was done before it. -/
abbrev InPlace (ε : Type) := ExceptT ε (StateM Members)

/-- What comes of work on a book, and the book that it leaves. -/
def InPlace.on {ε α : Type} (work : InPlace ε α) (book : Members) :
    Except ε α × Members :=
  (ExceptT.run work).run book

/-- The item that gives a part its title. -/
def titleItem (title : Text) : Value :=
  .object [("PartTitle", .text title)]

/-- An empty list of sections, unless the book has sections. -/
def withSections (book : Members) : Members :=
  if Members.has "sections" book then book
  else Members.put "sections" (.list []) book

/-- One item more after the sections. -/
def pushItem (item : Value) : InPlace BookFault Unit := do
  match sectionsOf (← get) with
  | .list items =>
    modify (Members.put "sections" (.list (items ++ [item])))
  | _ => throw .sectionsNotList

/-- Items after the sections, one after the other. -/
def pushItems : List Value → InPlace BookFault Unit
  | [] => return
  | item :: items => do
    pushItem item
    pushItems items

/-- A titled part at the end of the book. -/
def appendPart (title : Text) (chapters : List Chapter) :
    InPlace BookFault Unit := do
  modify withSections
  pushItem (titleItem title)
  pushItems (Chapter.items chapters)

/-- Why a part cannot be added. -/
inductive PartFault where
  | book (f : BookFault)
  | chapter (f : ChapterFault)
  deriving DecidableEq, Repr

/-- The chapters of a workspace as a part of the book, numbered on from
those it has. -/
def addPart (title : Text) (r : ChapterRequest) (w : Workspace) :
    InPlace PartFault Unit := do
  match nextNumber (← get) with
  | .error f => throw (.book f)
  | .ok next =>
    match { r with first := .number next }.chapters w with
    | .error f => throw (.chapter f)
    | .ok chapters => (appendPart title chapters).adapt .book

end ApiBook.Book
