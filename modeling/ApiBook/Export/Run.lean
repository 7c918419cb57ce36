/-
Exporting the definitions of a folder with a program.

* `Export.commandLine`: how the program is called;
* `Export.readDocument`: the definitions in a document that a program
  left behind;
* `Export.run`: the definitions of a folder, and what the program was
  run with;
* `Export.Fault`: why there are none.
-/
import ApiBook.Config.Options
import ApiBook.Export.Program
import ApiBook.Record.Document

namespace ApiBook.Export

open Record (Definition)

/-! ### Faults -/

/-- Why there are no definitions. The command line is the one that was
to give them. -/
inductive Fault where
  | noArguments
  | unwritable
  | unnamable (flaw : NameFlaw)
  | notStarted (command : Text) (line : List Text)
      (fault : Disk.Fault)
  | failed (command : Text) (line : List Text) (status : Int)
      (notes : List Char)
  | unreadable (line : List Text) (file : Path) (fault : Disk.Fault)
  | undecodable
  | document (e : Record.DecodeError)

namespace Fault

/-- The wording of a fault in running a program or in reading what it
left behind. -/
def message? : Fault → Option Text
  | notStarted command _ fault =>
    some ("Failed to execute " ++ command ++ ": " ++ fault.message command)
  | failed command _ status _ =>
    some (command ++ " exited with status " ++ Decimal.text status)
  | unreadable _ file fault =>
    some ("Unable to read documentation output " ++ file.text ++ ": "
      ++ fault.message file.text)
  | document e => some (.ofString e.message)
  | _ => none

end Fault

/-! ### Documents -/

/-- The definitions in the content of a document, in which lists and
objects may be nested to a depth. -/
def readContent (depth : Nat) (content : List UInt8) :
    Except Fault (List Definition) :=
  match Host.textOf? content with
  | none => .error .undecodable
  | some text =>
    match Record.decode depth (.ofChars text) with
    | .ok ds => .ok ds
    | .error e => .error (.document e)

/-- The definitions in a document that a command line gave. -/
def readDocument (h : Host) (line : List Text) (file : Path) :
    Except Fault (List Definition) :=
  match nameFlaw? file.text with
  | some flaw => .error (.unnamable flaw)
  | none =>
    match h.read file with
    | .error f => .error (.unreadable line file f)
    | .ok content => readContent h.nesting.read content

/-! ### Running -/

/-- The document that a program leaves in a folder. -/
def documentIn (folder : Path) : Path :=
  folder.append ⟨.relative, ["doc.json"]⟩

/-- The arguments for exporting a folder into another one. -/
def argumentsFor (folder out : Path) (more : List Text) : List Text :=
  "--doc" :: folder.text :: "--doc_out_path" :: out.text :: "--logpath"
    :: out.text :: more

/-- The command line for exporting a folder. -/
def commandLine (e : Config.Exporter) (folder out : Path) : List Text :=
  e.command :: argumentsFor folder out e.arguments

/-- What came of exporting a folder: what the program was run with, if it
was run, and the definitions. -/
structure Run where
  arguments : Option (List Text)
  result : Except Fault (List Definition)

/-- The definitions that a program leaves when it is run with a command
line. Whatever it prints has to be text, also if nothing is made of it. -/
def resultOf (h : Host) (command : Text) (line : List Text) (p : Program) :
    Except Fault (List Definition) :=
  match Host.textOf? p.output, Host.textOf? p.errors with
  | some _, some notes =>
    if p.status ≠ 0 then .error (.failed command line p.status notes)
    else match p.document with
      | none => .error (.unreadable line (documentIn h.scratch) .notFound)
      | some content => readContent h.nesting.read content
  | _, _ => .error .undecodable

/-- The definitions of a folder, exported by a program. -/
def runWith (h : Host) (e : Config.Exporter) (folder : Path) : Run :=
  let line := commandLine e folder h.scratch
  match line.findSome? nameFlaw? with
  | some flaw => ⟨none, .error (.unnamable flaw)⟩
  | none =>
    match findProgram h e.command with
    | .error f => ⟨none, .error (.notStarted e.command line f)⟩
    | .ok p => ⟨some line.tail, resultOf h e.command line p⟩

/-- The definitions of a folder, exported by the program that is
configured. -/
def run (h : Host) (c : Config) (folder : Path) : Run :=
  match c.exporter with
  | .error .notArguments => ⟨none, .error .noArguments⟩
  | .error .unwritable => ⟨none, .error .unwritable⟩
  | .ok e => runWith h e folder

end ApiBook.Export
