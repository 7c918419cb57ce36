/-
Settings for a book: from the context that a book tool gives, and from
the configuration where the context says nothing.

* `Settings`: the folder of the definitions, the title of the part, the
  folder of its pages, and the depth of navigation;
* `settings`: the settings for a context;
* `SettingsFault`: why there are none.
-/
import ApiBook.Config.Basic
import ApiBook.Host
import ApiBook.Setting.Display

namespace ApiBook.Preprocess

/-- Settings for a book. -/
structure Settings where
  /-- The folder of the definitions, from the top and without links. -/
  definitions : Path
  /-- The title of the part that holds the chapters. -/
  title : Text
  /-- The folder of the pages. -/
  folder : Text
  /-- The last depth at which files have chapters, if there is one. -/
  navDepth : Option Nat
  deriving DecidableEq, Repr

/-! ### Faults -/

/-- Why there are no settings. -/
inductive SettingsFault where
  | rootNotText
  | contextNotObjects
  | definitionsNotText
  | endlessLinks
  | unnamable (flaw : NameFlaw)
  | definitionsMissing (path : Path)
  | depthNotWhole (literal : String)
  | unwritable
  deriving DecidableEq, Repr

/-- The wording of a fault that is a matter of configuration. -/
def SettingsFault.message? : SettingsFault → Option Text
  | definitionsMissing path =>
    some ("Definitions path does not exist: " ++ path.text)
  | depthNotWhole literal =>
    some (.ofString
      ("nav-depth must be a non-negative integer, got " ++ literal))
  | _ => none

/-! ### Parts of the context -/

/-- The root of the book. -/
def bookRoot (context : Members) : Except SettingsFault Path :=
  match ((Members.get? "root" context).getD .null).orElse (.text ".") with
  | .text s => .ok (Path.ofText s)
  | _ => .error .rootNotText

/-- A member that is an object if it is there. -/
def objectAt (name : Text) (ms : Members) :
    Except SettingsFault Members :=
  match Members.get? name ms with
  | none => .ok []
  | some (.object inner) => .ok inner
  | some _ => .error .contextNotObjects

/-- The table with the settings of the book. -/
def settingsTable (context : Members) : Except SettingsFault Members := do
  let tools ← objectAt "preprocessor" (← objectAt "config" context)
  match (Members.get? "luacats" tools).getD .null with
  | .object table => return table
  | v => if v.isVoid then return [] else throw .contextNotObjects

/-! ### Single settings -/

/-- A setting of the table, if it is there. -/
def own? (table : Members) (name : Text) : Option Setting :=
  (Members.get? name table).map Setting.ofValue

/-- A setting of the table unless it counts as not given, or else of the
configuration. -/
def settingOr (table : Members) (name : Text) (fallback : Setting) :
    Setting :=
  match own? table name with
  | some v => if v.isVoid then fallback else v
  | none => fallback

/-- The path of the definitions, taken from the root of the book. -/
def definitionsPath (c : Config) (root : Path) (table : Members) :
    Except SettingsFault Path :=
  match settingOr table "definitions-path"
      (c.get "book.definitions_path" (.text "library")) with
  | .scalar (.text s) => .ok (root.append (Path.ofText s))
  | _ => .error .definitionsNotText

/-- The path from the top for the path of the definitions, which have to
be there. -/
def existingPath (h : Host) (p : Path) : Except SettingsFault Path :=
  match h.resolve true p.namablePart with
  | .ok found =>
    match p.flaw? with
    | none => .ok found
    | some flaw => .error (.unnamable flaw)
  | .error .tooManyLinks => .error .endlessLinks
  | .error _ => .error (.definitionsMissing p)

/-- The depth of navigation that a setting stands for. -/
def depthOf (v : Setting) : Except SettingsFault (Option Nat) :=
  match v with
  | .scalar .null => .ok none
  | .scalar (.number (.whole (.ofNat n))) => .ok (some n)
  | v =>
    match v.literal? with
    | some literal => .error (.depthNotWhole literal)
    | none => .error .unwritable

/-- A setting in writing. -/
def written (v : Setting) : Except SettingsFault Text :=
  match v.display? with
  | some s => .ok s
  | none => .error .unwritable

/-! ### Settings -/

/-- The settings for a context. A title that counts as not given is taken
from the configuration; the folder of the pages and the depth of
navigation are taken from there only if the table has no such member. -/
def settings (h : Host) (c : Config) (context : Members) :
    Except SettingsFault Settings := do
  let root ← bookRoot context
  let table ← settingsTable context
  let definitions ← existingPath h (← definitionsPath c root table)
  let navDepth ← depthOf
    ((own? table "nav-depth").getD (c.get "book.nav_depth" .null))
  let title ← written (settingOr table "part-title"
    (c.get "book.part_title" (.text "API Reference")))
  let folder ← written ((own? table "chapter-dir").getD
    (c.get "book.chapter_dir" (.text "api")))
  return { definitions, title, folder, navDepth }

end ApiBook.Preprocess
