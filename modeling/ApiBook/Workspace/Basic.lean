/-
A workspace: the source files of a folder, each under the file whose
name its own folder bears.

* `SourceFile`: a file, its level, and the definitions documented in it;
* `Workspace.add`: a file more, under the first file that can hold it;
* `Workspace.forest`: the files as trees, and `Workspace.walk`, the
  files in the order in which the trees are read.

The files are kept in the order in which they came, each with the place
of its parent. So no file is ever moved: a file more is one entry more.
-/
import ApiBook.Path.Basic
import ApiBook.Record.Basic

namespace ApiBook

/-! ### Files -/

/-- A source file, relative to the folder of its workspace. -/
structure SourceFile where
  path : Path
  /-- How deep the file lies; the files of the folder itself have
  depth zero. -/
  depth : Int
  definitions : List Record.Definition
  deriving DecidableEq

namespace SourceFile

/-- Definitions with offsets, in the order of the offsets; those with
equal offsets stay in order. -/
def byOffset (entries : List (Nat × Record.Definition)) :
    List Record.Definition :=
  (entries.mergeSort fun a b => a.1 ≤ b.1).map (·.2)

/-- A file with the definitions that begin in it, given with their
offsets. -/
def ofEntries (path : Path) (entries : List (Nat × Record.Definition)) :
    SourceFile where
  path := path
  depth := (path.length : Int) - 1
  definitions := byOffset entries

/-- The name of a file. -/
def name (f : SourceFile) : Text := f.path.name

/-- The name of a file without its suffix. -/
def stem (f : SourceFile) : Text := f.path.stem

/-- The name of the folder that holds a file; the files of the workspace
folder itself have none. -/
def directory? (f : SourceFile) : Option Text :=
  if f.depth = 0 then none else some f.path.parent.name

/-- Whether a file may be the parent of another one: it lies one level
higher and bears the name of the other one's folder. -/
def holds (parent f : SourceFile) : Bool :=
  parent.depth = f.depth - 1 && f.directory? = some parent.stem

end SourceFile

/-! ### Workspaces -/

/-- A file, and the place of its parent among the files before it. -/
structure Workspace.Entry where
  file : SourceFile
  parent : Option Nat

/-- A folder and its files, in the order in which they came. -/
structure Workspace where
  root : Path
  entries : List Workspace.Entry

namespace Workspace

/-- The workspace of a folder, without files; a folder that is no
absolute path is taken from the current one. -/
def empty (current folder : Path) : Workspace :=
  ⟨Path.resolvedIn current folder, []⟩

/-- The place of the first file that can hold another one. -/
def findParent? (entries : List Entry) (f : SourceFile) : Option Nat :=
  entries.findIdx? fun e => e.file.holds f

/-- The workspace with one file more. -/
def add (w : Workspace) (f : SourceFile) : Workspace :=
  { w with entries := w.entries ++ [⟨f, findParent? w.entries f⟩] }

/-- The workspace with some files more, one after the other. -/
def addAll (w : Workspace) (fs : List SourceFile) : Workspace :=
  fs.foldl add w

/-- The files that lie below the top but have no parent; they are shown
at the top. -/
def orphans (entries : List Entry) : List SourceFile :=
  (entries.filter fun e => e.parent.isNone && 0 < e.file.depth).map (·.file)

/-- The notice for a file without a parent. -/
def orphanText (f : SourceFile) : Text :=
  "No parent found for " ++ f.path.text

/-! ### Trees -/

/-- A file with the files below it. -/
inductive Tree where
  | node (file : SourceFile) (subs : List Tree)

namespace Tree

/-- The file at the top of a tree. -/
def file : Tree → SourceFile
  | node f _ => f

/-- The trees below the top. -/
def subs : Tree → List Tree
  | node _ ts => ts

mutual

/-- The files of a tree, each before those below it. -/
def walk : Tree → List SourceFile
  | node f ts => f :: walkAll ts

/-- The files of trees, one tree after the other. -/
def walkAll : List Tree → List SourceFile
  | [] => []
  | t :: ts => t.walk ++ walkAll ts

end

mutual

/-- The trees within a tree, each before those below it. -/
def subtrees : Tree → List Tree
  | node f ts => node f ts :: subtreesAll ts

/-- The trees within trees, one tree after the other. -/
def subtreesAll : List Tree → List Tree
  | [] => []
  | t :: ts => t.subtrees ++ subtreesAll ts

end

end Tree

/-- The trees of the entries from place `i` on, each with the place of
its parent: an entry takes in the trees that name it as their parent. -/
def treesFrom (i : Nat) : List Entry → List (Option Nat × Tree)
  | [] => []
  | e :: es =>
    let later := treesFrom (i + 1) es
    (e.parent, .node e.file
      ((later.filter (·.1 == some i)).map (·.2))) ::
      later.filter (·.1 != some i)

/-- The files as trees. -/
def forest (w : Workspace) : List Tree :=
  (treesFrom 0 w.entries).map (·.2)

/-- The files in the order in which the trees are read. -/
def walk (w : Workspace) : List SourceFile := Tree.walkAll w.forest

end Workspace

end ApiBook
