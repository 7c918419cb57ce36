/-
When the chapters of a workspace cannot be made.

* `ChapterFault`: a file without a name, a heading at a level between
  two levels, or a limit or number of the wrong kind;
* `ChapterRequest`: chapters as they are asked for, with values of any
  kind for the settings;
* `ChapterRequest.chapters`: the chapters asked for, or the first fault
  that shows when the files are gone through in order.
-/
import ApiBook.Book.Chapter

namespace ApiBook.Book

open Workspace (Tree)

/-- Why chapters cannot be made. -/
inductive ChapterFault where
  | nameless (path : Path)
  | unwritable
  | incomparableLimit
  | folderNotText
  | numberNotWhole
  deriving DecidableEq, Repr

/-- The wording for a path without a name. -/
def namelessText (path : Path) : String :=
  "PosixPath(" ++ Text.quote path.text ++ ") has an empty name"

/-! ### Faults of files -/

/-- What is wrong with the chapter of a file before the files below it
are looked at. -/
def ownFaults (writable : Bool) (limit : NavLimit) (f : SourceFile) :
    List ChapterFault :=
  (if writable || f.definitions.isEmpty then [] else [.unwritable])
    ++ (if f.name.isEmpty then [.nameless f.path] else [])
    ++ (match limit with
      | .incomparable => [.incomparableLimit]
      | _ => [])

mutual

/-- What is wrong with the chapter of a file and those below it, in the
order in which it shows. -/
def faults (writable : Bool) (limit : NavLimit) :
    Tree → List ChapterFault
  | .node f subs =>
    ownFaults writable limit f
      ++ if limit.cuts f.depth then
          (if writable || subs.isEmpty then [] else [.unwritable])
        else faultsOfAll writable limit subs

/-- What is wrong with the chapters of files, one after the other. -/
def faultsOfAll (writable : Bool) (limit : NavLimit) :
    List Tree → List ChapterFault
  | [] => []
  | t :: ts => faults writable limit t ++ faultsOfAll writable limit ts

end

/-! ### Requests -/

/-- Chapters as they are asked for. -/
structure ChapterRequest where
  options : Markdown.Request := .writable {}
  folder : Value := .text "api"
  limit : Value := .null
  first : Value := .int 1

namespace ChapterRequest

/-- The whole number that a value counts as. -/
def wholeNumber? (v : Value) : Option Int :=
  match v.toNumber? with
  | some (.whole i) => some i
  | _ => none

/-- The plan for a request in which the folder is a text; options at
which no heading can be written are of no effect where there is no
heading to write. -/
def plan (r : ChapterRequest) (folder : Text) : Plan where
  options := match r.options with
    | .writable o => o
    | .unwritable => {}
  folder := folder
  limit := .ofValue r.limit

/-- Whether headings can be written at the level asked for. -/
def isWritable (r : ChapterRequest) : Bool :=
  match r.options with
  | .writable _ => true
  | .unwritable => false

/-- The chapters of a workspace as asked for. -/
def chapters (r : ChapterRequest) (w : Workspace) :
    Except ChapterFault (List Chapter) :=
  match r.folder with
  | .text folder =>
    match wholeNumber? r.first with
    | none => .error .numberNotWhole
    | some first =>
      match faultsOfAll r.isWritable (.ofValue r.limit) w.forest with
      | f :: _ => .error f
      | [] => .ok (chaptersFrom (r.plan folder) first w.forest)
  | _ => .error .folderNotText

end ChapterRequest

end ApiBook.Book
