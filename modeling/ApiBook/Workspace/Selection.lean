/-
The definitions of a folder as one list.

* `definedUnder`: whether a definition has a place in a folder; places
  are looked at up to the first that decides;
* `selectUnder`: the definitions with a place in a folder, by file and
  offset of their first place.
-/
import ApiBook.Path.Location
import ApiBook.Record.Basic

namespace ApiBook

open Record (Define Definition)

/-- Whether one of some places lies in a folder. -/
def anyUnder (root : Path) : List Define → Except Location.Fault Bool
  | [] => .ok false
  | p :: ps => do
    if root.isUnder (← Location.toPath p.file) then return true
    else anyUnder root ps

/-- Whether a definition has a place in a folder. -/
def definedUnder (root : Path) (d : Definition) :
    Except Location.Fault Bool :=
  anyUnder root d.defines

/-- The definitions with a place in a folder, in order. -/
def keptUnder (root : Path) :
    List Definition → Except Location.Fault (List Definition)
  | [] => .ok []
  | d :: ds => do
    if ← definedUnder root d then return d :: (← keptUnder root ds)
    else keptUnder root ds

/-- The file and offset that a definition is listed by. -/
def listingKey (d : Definition) : Text × Nat :=
  d.location?.getD ("", 0)

/-- The order of a listing: by file, then offset. -/
def listedBefore (d e : Definition) : Bool :=
  let (f, i) := listingKey d
  let (g, j) := listingKey e
  if f ≠ g then f < g else i ≤ j

/-- The definitions with a place in a folder, in the order of a
listing; those listed under one place stay in order. -/
def selectUnder (root : Path) (ds : List Definition) :
    Except Location.Fault (List Definition) := do
  return (← keptUnder root ds).mergeSort listedBefore

end ApiBook
