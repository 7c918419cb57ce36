/-
Disks: what stands at which place.

* `Place`: the names that lead to something from the top;
* `Node`: folders, files, programs, links to other places, and sinks;
* `Disk.find?`, `Disk.put`: what stands at a place itself, without
  following links;
* `Fault`: why a place cannot be used, with its number and wording.
-/
import ApiBook.Number.Decimal
import ApiBook.Text.Quoted

namespace ApiBook

/-- The names that lead to something from the top. -/
abbrev Place := List Text

/-- What a program does when it is run: the bytes that it prints and those
that it prints as errors, the document it leaves behind, and the status it
ends with, which is negative if a signal ended it. -/
structure Program where
  status : Int := 0
  output : List UInt8 := []
  errors : List UInt8 := []
  document : Option (List UInt8) := none
  deriving DecidableEq, Repr

/-- What stands at a place. A program has a content like any file; a
sink takes everything, and keeps nothing. -/
inductive Node where
  | folder
  | file (content : List UInt8)
  | program (content : List UInt8) (behaviour : Program)
  | link (target : Text)
  | sink
  deriving DecidableEq, Repr

/-- A disk: its places, and what stands there. -/
structure Disk where
  entries : List (Place × Node) := []

namespace Disk

/-! ### Places -/

/-- What stands at a place; at the top there always is a folder. -/
def find? (d : Disk) (place : Place) : Option Node :=
  match place with
  | [] => some .folder
  | place => (d.entries.find? (·.1 = place)).map (·.2)

/-- The disk with something standing at a place. -/
def put (place : Place) (node : Node) (d : Disk) : Disk where
  entries := (place, node) :: d.entries.filter (·.1 ≠ place)

/-- The disk with folders at a place and above it, where there was
nothing. -/
def putFolders (place : Place) (d : Disk) : Disk :=
  ((List.range place.length).map fun n => place.take (n + 1)).foldl
    (fun d place => if (d.find? place).isSome then d
      else d.put place .folder) d

/-- The disk with something standing at a place, and folders above
it. -/
def putBelow (place : Place) (node : Node) (d : Disk) : Disk :=
  (d.putFolders place.dropLast).put place node

end Disk

/-! ### Faults -/

namespace Disk

/-- Why a place cannot be used. -/
inductive Fault where
  | notFound
  | denied
  | notFolder
  | isFolder
  | nameTooLong
  | tooManyLinks
  deriving DecidableEq, Repr

namespace Fault

/-- The number of a fault. -/
def number : Fault → Nat
  | notFound => 2
  | denied => 13
  | notFolder => 20
  | isFolder => 21
  | nameTooLong => 36
  | tooManyLinks => 40

/-- The wording of a fault. -/
def text : Fault → String
  | notFound => "No such file or directory"
  | denied => "Permission denied"
  | notFolder => "Not a directory"
  | isFolder => "Is a directory"
  | nameTooLong => "File name too long"
  | tooManyLinks => "Too many levels of symbolic links"

/-- A fault as it is reported, with the path in the form in which it was
used. -/
def message (f : Fault) (path : Text) : String :=
  "[Errno " ++ Decimal.text f.number ++ "] " ++ f.text ++ ": "
    ++ Text.quote path

end Fault

end Disk

end ApiBook
