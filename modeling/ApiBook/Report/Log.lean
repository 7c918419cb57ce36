/-
The log of a run.

* `Level`: how much a record matters, and which records are kept;
* `Log`: the level of a log and where its records go;
* `Log.setup?`: the log that is asked for; a file that cannot be written
  to is left out;
* `Log.write`: a record added to every file of the log.
-/
import ApiBook.Host

namespace ApiBook.Report

/-! ### Records -/

/-- How much a record matters. -/
inductive Level where
  | debug
  | warning
  deriving DecidableEq, Repr

namespace Level

/-- The number of a level; higher ones matter more. -/
def number : Level → Nat
  | debug => 10
  | warning => 30

/-- The name of a level. -/
def name : Level → String
  | debug => "DEBUG"
  | warning => "WARNING"

end Level

/-- A record: where it comes from, how much it matters, and what it
says. -/
structure LogRecord where
  source : String
  level : Level
  message : Text
  deriving DecidableEq, Repr

/-- A record as a line. -/
def LogRecord.line (r : LogRecord) : Text :=
  r.source ++ " " ++ r.level.name ++ " " ++ r.message ++ "\n"

/-! ### Logs -/

/-- Where records go, and from which level on. -/
inductive LogTarget where
  | console (level : Level)
  | file (level : Level) (path : Path)
  deriving DecidableEq, Repr

/-- A log: the level from which records are kept, and where they go. -/
structure Log where
  level : Level
  targets : List LogTarget
  deriving DecidableEq, Repr

namespace Log

/-- The host with a record in the file of a target. A record that no
encoding can write is left out. -/
def writeTo (r : LogRecord) (h : Host) : LogTarget → Host
  | .console _ => h
  | .file level path =>
    match r.line.chars? with
    | none => h
    | some cs =>
      if level.number ≤ r.level.number then
        match h.disk.append h.current path (Text.encodeUtf8 cs) with
        | .ok disk => { h with disk }
        | .error _ => h
      else h

/-- The host with a record in every file of a log, if the record
matters enough. -/
def write (l : Log) (r : LogRecord) (h : Host) : Host :=
  if l.level.number ≤ r.level.number then l.targets.foldl (writeTo r) h
  else h

/-- The path of a log file, taken from the current folder by its
components alone. -/
def filePath (h : Host) (file : Path) : Path :=
  (Path.ofPlace h.current).resolvedIn file

/-- The level that a run asks for. -/
def levelFor (verbose : Bool) : Level := if verbose then .debug else .warning

/-- The console as a target, if it is asked for. -/
def consoleTargets (verbose console : Bool) : List LogTarget :=
  if console then [.console (levelFor verbose)] else []

/-- A log with a file that takes every record. -/
def withFile (l : Log) (file : Path) : Log :=
  { l with targets := l.targets ++ [.file .debug file] }

/-- The record that a log file begins with. -/
def opening (file : Path) : LogRecord :=
  ⟨"root", .debug, "Logging to file: " ++ file.text⟩

/-- A log, and the host with the file that it writes to and the folders
above it. A file that cannot be written to is left out; there is no log
if nothing can have the path of the file. -/
def setup? (h : Host) (verbose console : Bool) :
    Option Path → Option (Log × Host)
  | none => some (⟨levelFor verbose, consoleTargets verbose console⟩, h)
  | some file =>
    let bare := ⟨levelFor verbose, consoleTargets verbose console⟩
    if !file.isNamable then none
    else match h.disk.makeFolders h.current file.parent with
      | .error _ => some (bare, h)
      | .ok disk =>
        match disk.append h.current (filePath h file) [] with
        | .error _ => some (bare, { h with disk })
        | .ok disk =>
          let l := bare.withFile (filePath h file)
          some (l, l.write (opening file) { h with disk })

end Log

end ApiBook.Report
