/-
Finding programs.

* `Export.candidates`: where a command is looked for;
* `Export.findProgram`: the program that a command stands for, or why
  none can be started.
-/
import ApiBook.Host

namespace ApiBook.Export

/-- A name in a folder; no folder at all stands for the current one. -/
def inFolder (folder name : Text) : Text :=
  if folder.isEmpty || folder.endsWith '/' then folder ++ name
  else folder ++ "/" ++ name

/-- Where a command is looked for: only where it says, if it has a slash,
and otherwise in the folders for programs. -/
def candidates (folders : List Text) (command : Text) : List Text :=
  if command.toList.contains (.char '/') then [command]
  else folders.map (inFolder · command)

/-- The program that is found where steps lead; nothing else can be
started. -/
def programAt (h : Host) (steps : Text) : Except Disk.Fault Program :=
  match h.disk.locateText h.current steps with
  | .error f => .error f
  | .ok place =>
    match h.disk.find? place with
    | some (.program _ behaviour) => .ok behaviour
    | _ => .error .denied

/-- Whether a fault only says that there is nothing. -/
def isAbsence (f : Disk.Fault) : Bool := f = .notFound || f = .notFolder

/-- The first program found, or the fault to report if there is none:
the first one that says more than that there is nothing, or else the
last. -/
def firstProgram (h : Host) (before : Disk.Fault) :
    List Text → Except Disk.Fault Program
  | [] => .error before
  | steps :: rest =>
    match programAt h steps with
    | .ok p => .ok p
    | .error f => firstProgram h (if isAbsence before then f else before) rest

/-- The program that a command stands for. -/
def findProgram (h : Host) (command : Text) :
    Except Disk.Fault Program :=
  firstProgram h .notFound (candidates h.programFolders command)

end ApiBook.Export
