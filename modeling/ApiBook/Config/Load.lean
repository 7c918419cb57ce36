/-
Loading the configuration: the defaults, with the settings of a file and
then those of environment variables over them.

* `Config.chooseFile`: the file that the settings come from;
* `Config.load`: the configuration for a file;
* `Config.LoadFault`: why there is none.
-/
import ApiBook.Config.Override
import ApiBook.Yaml.Document

namespace ApiBook.Config

/-! ### Faults -/

/-- Why a configuration cannot be loaded. -/
inductive LoadFault where
  | noHome
  | endlessLinks
  | unnamable (flaw : NameFlaw)
  | inaccessible
  | unreadable (file : Path) (fault : Disk.Fault)
  | undecodable
  | malformed (file : Path)
  | value (fault : Yaml.Fault)
  | notMapping (file : Path)
  deriving DecidableEq, Repr

namespace LoadFault

/-- What is said of a file that cannot be read. -/
def fileText (file : Path) : Text :=
  "Error loading configuration from " ++ file.text

/-- The wording of a fault that has to do with the file as a whole. -/
def message? : LoadFault → Option Text
  | unreadable file fault =>
    some (fileText file ++ ": " ++ fault.message file.text)
  | malformed file => some (fileText file)
  | notMapping file =>
    some (file.text ++ " does not contain a YAML mapping")
  | _ => none

end LoadFault

/-! ### The file -/

/-- The name of the file that is looked for in the current folder. -/
def localFile : Path := ⟨.relative, [".luacats-doc.yml"]⟩

/-- The file that is looked for in the folder for configuration. -/
def userFile (h : Host) : Path :=
  h.configFolder.append ⟨.relative, ["luacats-doc", "config.yml"]⟩

/-- The path from the top for a file that was asked for, whether it is
there or not. -/
def askedFile (h : Host) (asked : Path) : Except LoadFault Path :=
  match h.expandHome? asked with
  | none => .error .noHome
  | some p =>
    match h.resolve false p.namablePart with
    | .ok found =>
      match p.flaw? with
      | some flaw => .error (.unnamable flaw)
      | none =>
        if h.canTell found then .ok found else .error .inaccessible
    | .error _ => .error .endlessLinks

/-- The file that the settings come from: the one asked for, or else the
first of two files that is there. -/
def chooseFile (h : Host) (asked : Option Path) :
    Except LoadFault (Option Path) :=
  match asked with
  | some p => (askedFile h p).map some
  | none => .ok ([localFile, userFile h].find? h.isPresent)

/-! ### Loading -/

/-- The settings in the text of a file, in which collections may be nested
to a depth. -/
def settingsOfText (depth : Nat) (file : Path) (text : List Char) :
    Except LoadFault Table :=
  match Yaml.parse depth text with
  | .ok (.scalar .null) => .ok []
  | .ok v => (v.entries?.map Except.ok).getD (.error (.notMapping file))
  | .error .malformed => .error (.malformed file)
  | .error f => .error (.value f)

/-- The settings in a file; none if it is not there. -/
def settingsOfFile (h : Host) (file : Path) : Except LoadFault Table :=
  if h.isPresent file then
    match h.read file with
    | .error f => .error (.unreadable file f)
    | .ok content =>
      match Host.textOf? content with
      | none => .error .undecodable
      | some text => settingsOfText h.nesting.settings file text
  else .ok []

/-- The configuration for a file. -/
def load (h : Host) (file : Option Path) : Except LoadFault Config := do
  let settings ← match file with
    | some file => settingsOfFile h file
    | none => pure []
  return (defaults.merge settings).override h.environment

/-- The configuration for the file that is asked for. -/
def loadAsked (h : Host) (asked : Option Path) : Except LoadFault Config :=
  do load h (← chooseFile h asked)

end ApiBook.Config
