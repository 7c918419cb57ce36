/-
Chapters: one for every file of a workspace down to a limit, the files
below it being part of the chapter they lie under.

* `NavLimit`: the depth from which files have no chapters of their own;
* `chapterOf`: the chapter of a file, with number, path and the names of
  the chapters around it;
* `inlineText`: a file below the limit, as part of a chapter;
* `chaptersFrom`: the chapters of a workspace;
* `Chapter.item`: a chapter as an item of a book.
-/
import ApiBook.Markdown.Render
import ApiBook.Text.Pieces

namespace ApiBook.Book

open Markdown (headingText fileText deeper)
open Workspace (Tree)

/-- A chapter of a book. -/
inductive Chapter where
  | mk (name content : Text) (number : List Int) (path : Text)
      (parents : List Text) (subs : List Chapter)

/-! ### The limit of navigation -/

/-- The depth from which on files have no chapters below their own. -/
inductive NavLimit where
  | unlimited
  | atDepth (n : Number)
  | incomparable

namespace NavLimit

/-- The limit that a value stands for. -/
def ofValue : Value → NavLimit
  | .null => unlimited
  | v =>
    match v.toNumber? with
    | some n => atDepth n
    | none => incomparable

/-- Whether the files below a file at some depth have no chapters of
their own. -/
def cuts (limit : NavLimit) (depth : Int) : Bool :=
  match limit with
  | atDepth n => n.le (.whole depth)
  | _ => false

end NavLimit

/-! ### Texts -/

mutual

/-- A file below the limit with all files under it: a heading, and the
definitions one level deeper. -/
def inlineText (level : Nat) (language : Text) : Tree → Text
  | .node f subs =>
    Text.join "\n"
      ((headingText level f.stem ++ fileText (deeper level) language f) ::
        inlineTexts (deeper level) language subs)

/-- The texts of files below the limit, one for each. -/
def inlineTexts (level : Nat) (language : Text) :
    List Tree → List Text
  | [] => []
  | t :: ts => inlineText level language t :: inlineTexts level language ts

end

/-- The text of the chapter of a file, before what lies below the
limit. -/
def ownText (o : Markdown.Options) (f : SourceFile) : Text :=
  headingText 1 f.stem ++ fileText o.level o.language f

/-! ### Paths -/

/-- A folder without slashes at its ends. -/
def trimSlashes (folder : Text) : Text :=
  Text.ofList (Text.trim (· = .char '/') folder.toList)

/-- The page of a file below a folder. -/
def pagePath (folder : Text) (f : SourceFile) : Text :=
  let page := ((f.path.withSuffix? ".md").getD f.path).text
  let folder := trimSlashes folder
  if folder.isEmpty then page else folder ++ "/" ++ page

/-! ### Chapters -/

/-- What is the same for all chapters of a book. -/
structure Plan where
  options : Markdown.Options := {}
  folder : Text := "api"
  limit : NavLimit := .unlimited

mutual

/-- The chapter of a file: its number, and the names of the chapters
around it, from the outermost. -/
def chapterOf (p : Plan) (number : List Int) (parents : List Text) :
    Tree → Chapter
  | .node f subs =>
    if p.limit.cuts f.depth then
      .mk f.stem
        (Text.join "\n" (ownText p.options f ::
          inlineTexts p.options.level p.options.language subs))
        number (pagePath p.folder f) parents []
    else
      .mk f.stem (ownText p.options f) number (pagePath p.folder f) parents
        (chaptersOf p number 1 (parents ++ [f.stem]) subs)

/-- The chapters of files, numbered from `next` below a number. -/
def chaptersOf (p : Plan) (number : List Int) (next : Int)
    (parents : List Text) : List Tree → List Chapter
  | [] => []
  | t :: ts =>
    chapterOf p (number ++ [next]) parents t ::
      chaptersOf p number (next + 1) parents ts

end

/-! ### Items of a book -/

/-- A list of numbers, or nothing for none. -/
def numberValue (number : List Int) : Value :=
  if number.isEmpty then .null else .list (number.map .int)

mutual

/-- A chapter as an item of a book. -/
def Chapter.item : Chapter → Value
  | .mk name content number path parents subs =>
    .object [("Chapter", .object [
      ("name", .text name),
      ("content", .text content),
      ("number", numberValue number),
      ("sub_items", .list (Chapter.items subs)),
      ("path", .text path),
      ("source_path", .null),
      ("parent_names", .list (parents.map .text))])]

/-- Chapters as items of a book. -/
def Chapter.items : List Chapter → List Value
  | [] => []
  | c :: cs => c.item :: Chapter.items cs

end

/-! ### The chapters of a workspace -/

/-- The chapters of trees, numbered from `first`. -/
def chaptersFrom (p : Plan) (first : Int) (forest : List Tree) :
    List Chapter :=
  chaptersOf p [] first [] forest

end ApiBook.Book
