/-
What a run finds around it.

* `Host`: the disk, the folders that have a meaning, the environment
  variables, and the room for nesting;
* `Host.read`, `Host.readText?`: the content of a file, as bytes and as
  text;
* `Host.expandHome?`: a path whose first name may stand for the home
  folder of a user.
-/
import ApiBook.Disk.Lookup
import ApiBook.Text.Printed
import ApiBook.Text.Utf8

namespace ApiBook

/-- Environment variables, in order. -/
abbrev Variables := List (String × String)

/-- How deep lists and objects may be nested in a text. That depends on
what is running already, and is for no text to know. -/
structure Nesting where
  /-- The levels of a JSON text that is read. -/
  read : Nat
  /-- The levels of a JSON text that is written. -/
  written : Nat
  /-- The levels of a configuration file. -/
  settings : Nat

/-- What a run finds around it. -/
structure Host where
  /-- The files and folders. -/
  disk : Disk
  /-- The folder that paths start from. -/
  current : Place
  /-- The home folders of users; the user without a name is the one that
  runs. -/
  homes : List (Text × Path)
  /-- The folder for the configuration of programs. -/
  configFolder : Path
  /-- The folders in which programs are looked for, in order. -/
  programFolders : List Text
  /-- The folder that a program is given to write to; it is empty before
  and after. -/
  scratch : Path
  /-- The environment variables. -/
  environment : Variables
  /-- The room for nesting. -/
  nesting : Nesting

namespace Host

/-! ### Files -/

/-- Whether a path leads to something. -/
def isPresent (h : Host) (p : Path) : Bool := h.disk.isPresent h.current p

/-- Whether it can be told if a path leads to something. -/
def canTell (h : Host) (p : Path) : Bool := h.disk.canTell h.current p

/-- What a path leads to. -/
def nodeAt? (h : Host) (p : Path) : Option Node :=
  h.disk.nodeAt? h.current p

/-- The content of a file. -/
def read (h : Host) (p : Path) : Except Disk.Fault (List UInt8) :=
  h.disk.read h.current p

/-- The text of the content of a file, every line end read as a line
feed. -/
def textOf? (content : List UInt8) : Option (List Char) :=
  (Text.decodeUtf8? content).map Text.unifyNewlines

/-- The path from the top that a path stands for. -/
def resolve (h : Host) (strict : Bool) (p : Path) :
    Except Disk.Fault Path :=
  h.disk.resolve strict h.current p

/-! ### Home folders -/

/-- The path with the home folder of a user in the place of a first name
that begins with a tilde; none if the user has no home. -/
def expandHome? (h : Host) (p : Path) : Option Path :=
  match p.root, p.parts with
  | .relative, first :: rest =>
    if first.startsWith '~' then
      (h.homes.lookup (.ofList (first.toList.drop 1))).map
        fun home => home.append ⟨.relative, rest⟩
    else some p
  | _, _ => some p

end Host

end ApiBook
