/-
Finding places.

* `Disk.walk`: the place that steps lead to, following every link on the
  way;
* `Disk.resolve`: the place that a path stands for when links are
  followed and double dots are carried out on what they lead to, whether
  it has to exist or not;
* `NameFlaw`, `Path.isNamable`: whether anything can have a path, and why
  not;
* `Disk.read`, `Disk.isPresent`: what is found there;
* `Disk.makeFolders`, `Disk.append`: folders, made where there is
  nothing, and bytes added to a file.
-/
import ApiBook.Disk.Basic
import ApiBook.Path.Basic

namespace ApiBook

/-! ### Steps -/

/-- The step that leads to where it starts. -/
def stayStep : Text := "."

/-- The steps written in a text: the names between slashes. A slash at
the end asks for a folder, which a single dot stands for. -/
def stepsOf (t : Text) : List Text :=
  let steps := (Text.splitText (.char '/') t).filter (!·.isEmpty)
  if t.endsWith '/' && !steps.isEmpty then steps ++ [stayStep] else steps

/-- The place at which steps written in a text start. -/
def startOf (current : Place) (t : Text) : Place :=
  if t.startsWith '/' then [] else current

/-! ### Names -/

/-- What keeps a text from being a name on a disk: a surrogate that stands
for no byte, or the character NUL, which ends names. -/
inductive NameFlaw where
  | surrogate
  | null
  deriving DecidableEq, Repr

/-- The first and the last of the surrogates that stand for bytes of names
which are no text: the bytes above the first 128, in order. -/
def byteSurrogates : Nat × Nat := (0xDC80, 0xDCFF)

/-- Whether a code point stands for bytes of a name. -/
def isNameCode (c : Code) : Bool :=
  c.isChar || byteSurrogates.1 ≤ c.toNat && c.toNat ≤ byteSurrogates.2

/-- What keeps a text from being a name. -/
def nameFlaw? (t : Text) : Option NameFlaw :=
  if !t.toList.all isNameCode then some .surrogate
  else if t.toList.contains (.char (Char.ofNat 0)) then some .null
  else none

/-- Whether a text can be a name on a disk. -/
def isNamable (t : Text) : Bool := (nameFlaw? t).isNone

/-- The number of bytes that a code point takes in a name. -/
def nameSize : Code → Nat
  | .char c => c.utf8Size
  | .surrogate _ => 1

namespace Path

/-- What keeps anything from having a path: the flaw of the first part
that can be no name. -/
def flaw? (p : Path) : Option NameFlaw := p.parts.findSome? nameFlaw?

/-- Whether anything can have a path. -/
def isNamable (p : Path) : Bool := p.flaw?.isNone

/-- The path up to the first part that can be no name. -/
def namablePart (p : Path) : Path :=
  { p with parts := p.parts.takeWhile ApiBook.isNamable }

/-- The place at which a path starts. -/
def start (p : Path) (current : Place) : Place :=
  if p.isAbsolute then [] else current

/-- The path from the top to a place. -/
def ofPlace (place : Place) : Path := ⟨.single, place⟩

end Path

namespace Disk

/-- What is said of a path with the character NUL in it. -/
def unnamableText : String := "embedded null byte"

/-- The greatest number of bytes of a name. -/
def nameLimit : Nat := 255

/-- The greatest number of bytes of a path. -/
def pathLimit : Nat := 4095

/-- Whether a text takes more bytes than a limit. -/
def isLonger (limit : Nat) (t : Text) : Bool :=
  limit < (t.toList.map nameSize).foldl (· + ·) 0

/-- The number of links that are followed on the way to what stands at a
place. -/
def linkLimit : Nat := 40

/-- The place that steps from a place lead to. If it `mayMiss`, the last
step may lead to a name that is not taken yet. -/
def walk (d : Disk) (mayMiss : Bool) (links : Nat) (place : Place)
    (steps : List Text) : Except Fault Place :=
  match steps with
  | [] => .ok place
  | step :: rest =>
    if d.find? place ≠ some .folder then .error .notFolder
    else if step = stayStep then walk d mayMiss links place rest
    else if step = ".." then walk d mayMiss links place.dropLast rest
    else if isLonger nameLimit step then .error .nameTooLong
    else match d.find? (place ++ [step]) with
      | none =>
        if mayMiss && rest.isEmpty then .ok (place ++ [step])
        else .error .notFound
      | some (.link target) =>
        match links with
        | 0 => .error .tooManyLinks
        | links + 1 =>
          walk d mayMiss links (startOf place target)
            (stepsOf target ++ rest)
      | some _ => walk d mayMiss links (place ++ [step]) rest
termination_by (links, steps.length)

/-- Where steps end: at a place, or at a link that leads back to itself,
with the steps that are left. -/
inductive Settled where
  | reached (place : Place)
  | looped (place : Place) (rest : List Text)

/-- The place that steps from a place stand for. Double dots lead up from
whatever has been reached; in a `strict` reading every step has to lead
to something. Of the links that lead here, `opened`, none is followed
again; there are at most `depth` others. -/
def settle (d : Disk) (strict : Bool) (depth : Nat) (opened : List Place)
    (place : Place) (steps : List Text) : Except Fault Settled :=
  match steps with
  | [] => .ok (.reached place)
  | step :: rest =>
    if step = stayStep then settle d strict depth opened place rest
    else if step = ".." then
      settle d strict depth opened place.dropLast rest
    else
      let place' := place ++ [step]
      match d.find? place' with
      | none =>
        if !strict then settle d strict depth opened place' rest
        else if d.find? place = some .folder then .error .notFound
        else .error .notFolder
      | some (.link target) =>
        if opened.contains place' then .ok (.looped place' rest)
        else match depth with
          | 0 => .ok (.looped place' rest)
          | depth + 1 =>
            match settle d strict depth (place' :: opened)
                (startOf place target) (stepsOf target) with
            | .ok (.reached place) =>
              settle d strict (depth + 1) opened place rest
            | .ok (.looped place left) => .ok (.looped place (left ++ rest))
            | .error f => .error f
      | some _ => settle d strict depth opened place' rest
termination_by (depth, steps.length)

/-! ### Paths -/

/-- The place that a path leads to. -/
def locate (d : Disk) (current : Place) (p : Path) : Except Fault Place :=
  if isLonger pathLimit p.text then .error .nameTooLong
  else d.walk false linkLimit (p.start current) p.parts

/-- The place that a text leads to, read as steps. -/
def locateText (d : Disk) (current : Place) (t : Text) :
    Except Fault Place :=
  if isLonger pathLimit t then .error .nameTooLong
  else d.walk false linkLimit (startOf current t) (stepsOf t)

/-- The path from the top that a path stands for. Behind a link that
leads back to itself the steps are only carried out on the names; what
they come to must not lead to such a link again. -/
def resolve (d : Disk) (strict : Bool) (current : Place) (p : Path) :
    Except Fault Path :=
  match d.settle strict d.entries.length [] (p.start current) p.parts with
  | .error f => .error f
  | .ok (.reached place) => .ok (.ofPlace place)
  | .ok (.looped place rest) =>
    let p := (Path.ofPlace place).resolvedIn ⟨.relative, rest⟩
    if strict || d.locate current p matches .error .tooManyLinks then
      .error .tooManyLinks
    else .ok p

/-- What a path leads to. -/
def nodeAt? (d : Disk) (current : Place) (p : Path) : Option Node :=
  match d.locate current p with
  | .ok place => d.find? place
  | .error _ => none

/-- Whether a path leads to something. -/
def isPresent (d : Disk) (current : Place) (p : Path) : Bool :=
  match d.locate current p with
  | .ok _ => true
  | .error _ => false

/-- Whether it can be told if a path leads to something: names that are
too long cannot be looked up. -/
def canTell (d : Disk) (current : Place) (p : Path) : Bool :=
  match d.locate current p with
  | .error .nameTooLong => false
  | _ => true

/-- The content of a file. -/
def read (d : Disk) (current : Place) (p : Path) :
    Except Fault (List UInt8) :=
  match d.locate current p with
  | .error f => .error f
  | .ok place =>
    match d.find? place with
    | some (.file content) => .ok content
    | some (.program content _) => .ok content
    | some .sink => .ok []
    | some .folder => .error .isFolder
    | _ => .error .notFound

/-! ### Changes -/

/-- The disk with a folder at a path and folders above it. -/
def makeFolders (d : Disk) (current : Place) (p : Path) :
    Except Fault Disk :=
  (List.range p.parts.length).foldlM (fun d n =>
    makeFolder d (p.start current) (p.parts.take (n + 1))) d
where
  /-- The disk with a folder where steps lead. A link that leads nowhere
  is in the way. -/
  makeFolder (d : Disk) (start : Place) (steps : List Text) :
      Except Fault Disk :=
    match d.walk false linkLimit start steps with
    | .ok place =>
      if d.find? place = some .folder then .ok d else .error .notFolder
    | .error _ =>
      match d.walk false linkLimit start steps.dropLast with
      | .error f => .error f
      | .ok above =>
        let place := above ++ steps.getLast?.toList
        if (d.find? place).isSome then .error .notFolder
        else .ok (d.put place .folder)

/-- The disk with bytes added to the file at a path, which is made if
there is nothing. -/
def append (d : Disk) (current : Place) (p : Path) (bytes : List UInt8) :
    Except Fault Disk :=
  match d.walk true linkLimit (p.start current) p.parts with
  | .error f => .error f
  | .ok place =>
    match d.find? place with
    | none => .ok (d.put place (.file bytes))
    | some (.file content) => .ok (d.put place (.file (content ++ bytes)))
    | some (.program content behaviour) =>
      .ok (d.put place (.program (content ++ bytes) behaviour))
    | some .sink => .ok d
    | some _ => .error .isFolder

end Disk

end ApiBook
