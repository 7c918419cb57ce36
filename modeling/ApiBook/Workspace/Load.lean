/-
Filling a workspace with definitions.

* `resolve`: the definitions with the paths and offsets of their places,
  or the first place that cannot be resolved;
* `grouped`: every path with the definitions that have a place in it;
* `Workspace.load`: the files under the folder of a workspace, parents
  first, added one by one;
* `Workspace.loadInPlace`: the same as work on a workspace that is there.
-/
import ApiBook.Path.Location
import ApiBook.Workspace.Basic

namespace ApiBook.Workspace

open Record (Definition)

/-- A definition with the paths and offsets of its places. -/
structure Resolved where
  definition : Definition
  places : List (Path × Nat)

/-- The paths and offsets of the places of a definition. -/
def resolveOne (d : Definition) : Except Location.Fault Resolved := do
  let places ← d.defines.mapM fun p => do
    return (← Location.toPath p.file, p.span.start)
  return ⟨d, places⟩

/-- The definitions with their places, or what is wrong with the first
place that cannot be resolved. -/
def resolve (ds : List Definition) :
    Except Location.Fault (List Resolved) :=
  ds.mapM resolveOne

/-- The definitions with a place in a path, each with the offset of the
first such place. -/
def entriesAt (path : Path) (rs : List Resolved) :
    List (Nat × Definition) :=
  rs.filterMap fun r =>
    (r.places.find? (·.1 = path)).map fun place => (place.2, r.definition)

/-- The paths of all places, in order of appearance. -/
def pathsOf (rs : List Resolved) : List Path :=
  (rs.flatMap fun r => r.places.map (·.1)).eraseDups

/-- The files below a folder, each with its definitions. -/
def grouped (root : Path) (rs : List Resolved) : List SourceFile :=
  (pathsOf rs).filterMap fun path => do
    let relative ← root.relativeTo? path
    if relative.parts.isEmpty then none
    else some (.ofEntries relative (entriesAt path rs))

/-- The order in which files are added: by depth, then name, then
path. -/
def comesFirst (f g : SourceFile) : Bool :=
  if f.depth ≠ g.depth then f.depth < g.depth
  else if f.name ≠ g.name then f.name < g.name
  else f.path.text ≤ g.path.text

/-- The files that definitions add to a workspace, in order. -/
def filesOf (root : Path) (rs : List Resolved) : List SourceFile :=
  (grouped root rs).mergeSort comesFirst

/-- The workspace with the files of some definitions added. Nothing is
added if any place cannot be resolved. -/
def load (w : Workspace) (ds : List Definition) :
    Except Location.Fault Workspace := do
  let rs ← resolve ds
  return w.addAll (filesOf w.root rs)

/-- Definitions loaded into the workspace that is there. A step that fails
ends the work, and takes back nothing that was done before. -/
def loadInPlace (ds : List Definition) :
    EStateM Location.Fault Workspace Unit := do
  let rs ← ds.mapM fun d => MonadExcept.ofExcept (resolveOne d)
  (filesOf (← get).root rs).forM fun f => modify (·.add f)

/-- The workspace of a folder, filled with definitions. -/
def build (current folder : Path) (ds : List Definition) :
    Except Location.Fault Workspace :=
  (empty current folder).load ds

end ApiBook.Workspace
