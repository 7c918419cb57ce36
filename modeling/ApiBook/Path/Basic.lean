/-
Paths, taken apart by their slashes and never looked up.

* `Path`: where a path starts, and its components; empty components and
  single dots are dropped when a path is read;
* `Path.name`, `Path.stem`, `Path.withSuffix?`: the last component and
  its suffix;
* `Path.relativeTo?`: the rest of a path below another one;
* `Path.normalized`: without double dots, as far as they can go.
-/
import ApiBook.Text.Pieces

namespace ApiBook

/-- Where a path starts. Exactly two slashes are kept apart from one;
three or more count as one. -/
inductive Path.Root where
  | relative
  | single
  | double
  deriving DecidableEq, Repr

/-- A path: its start and its components. -/
structure Path where
  root : Path.Root
  parts : List Text
  deriving DecidableEq, Repr

namespace Path

/-! ### Reading and writing -/

/-- The start of a path in writing. -/
def Root.text : Root → String
  | relative => ""
  | single => "/"
  | double => "//"

/-- The start that a number of leading slashes stands for. -/
def Root.ofSlashes : Nat → Root
  | 0 => relative
  | 2 => double
  | _ => single

/-- Components that say nothing about where a path leads. -/
def isIdle (part : List Code) : Bool := part = [] || part = [.char '.']

/-- A path read from a text. -/
def ofCodes (cs : List Code) : Path where
  root := .ofSlashes (cs.takeWhile (· = .char '/')).length
  parts := ((Text.split (.char '/') cs).filter (!isIdle ·)).map .ofList

/-- A path read from a text. -/
def ofText (t : Text) : Path := ofCodes t.toList

/-- The path that leads nowhere else. -/
def here : Path := ⟨.relative, []⟩

/-- A path in writing. -/
def text (p : Path) : Text :=
  if p.root = .relative && p.parts.isEmpty then "."
  else p.root.text ++ Text.join "/" p.parts

/-! ### Parts -/

/-- Whether a path starts at the top. -/
def isAbsolute (p : Path) : Bool := p.root != .relative

/-- The number of components; the start of an absolute path counts as
one. -/
def length (p : Path) : Nat :=
  p.parts.length + (if p.isAbsolute then 1 else 0)

/-- The last component; empty if there is none. -/
def name (p : Path) : Text := p.parts.getLastD ""

/-- The path without its last component. -/
def parent (p : Path) : Path := { p with parts := p.parts.dropLast }

/-- A name before and after its last dot, if that dot is neither its
first nor its last character. -/
def splitSuffix? (cs : List Code) : Option (List Code × List Code) :=
  match Text.breakAtLast? (.char '.') cs with
  | some (stem, suffix) =>
    if stem.isEmpty || suffix.isEmpty then none else some (stem, suffix)
  | none => none

/-- A name without its suffix. -/
def stemOf (name : Text) : Text :=
  match splitSuffix? name.toList with
  | some (stem, _) => .ofList stem
  | none => name

/-- The last component without its suffix. -/
def stem (p : Path) : Text := stemOf p.name

/-- The path with another suffix for the last component; there has to be
one. -/
def withSuffix? (suffix : Text) (p : Path) : Option Path :=
  if p.name.isEmpty then none
  else some { p with parts := p.parts.dropLast ++ [p.stem ++ suffix] }

/-! ### Combining paths -/

/-- A path taken from another one; an absolute path stands for
itself. -/
def append (p q : Path) : Path :=
  if q.isAbsolute then q else { p with parts := p.parts ++ q.parts }

/-- What is left of a list after a list it starts with. -/
def dropParts? : List Text → List Text → Option (List Text)
  | [], parts => some parts
  | _ :: _, [] => none
  | b :: bs, p :: ps => if b = p then dropParts? bs ps else none

/-- The rest of a path below another one. -/
def relativeTo? (base p : Path) : Option Path :=
  if base.root = p.root then
    (dropParts? base.parts p.parts).map fun rest => ⟨.relative, rest⟩
  else none

/-- Whether a path is another one or lies below it. -/
def isUnder (base p : Path) : Bool := (relativeTo? base p).isSome

/-! ### Normal form -/

/-- One component more on a path given last component first: a double
dot takes one away, stays where there is none to take, and is dropped at
the top. -/
def push (absolute : Bool) (stack : List Text) (part : Text) :
    List Text :=
  if part = ".." then
    match stack with
    | [] => if absolute then [] else [".."]
    | top :: rest => if top = ".." then ".." :: stack else rest
  else part :: stack

/-- The path without the double dots that can be carried out on its
components alone. -/
def normalized (p : Path) : Path :=
  { p with parts := (p.parts.foldl (push p.isAbsolute) []).reverse }

/-- The path taken from a folder and brought into normal form. -/
def resolvedIn (folder p : Path) : Path := (folder.append p).normalized

end Path

end ApiBook
