/-
How runs end, and how they fail.

* `Failure`: a failure that is reported, as a matter of configuration or
  of the work itself, or one that ends the run without a report;
* `failure`: the failure that each fault leads to;
* `Result`, `Ending`: what a run leaves for its caller, or a failure without
  a report.
-/
import ApiBook.Config.Load
import ApiBook.Export.Run
import ApiBook.Preprocess.Run
import ApiBook.Report.Summary

namespace ApiBook

/-- A failure of a run. -/
inductive CommandLine.Failure where
  | configuration (message : Text)
  | work (message : Text)
  | wrongKind
  | notObject
  | missingMember
  | undecodable
  | unencodable
  | unreadable (message : Text)
  | unresolvable
  | inaccessible
  | tooDeep
  | tooGreat
  | noDigits
  deriving DecidableEq, Repr

open CommandLine (Failure)

namespace CommandLine.Failure

/-- The summary that a reported failure ends with; `work` names what the
run was about. -/
def summary? (about : Text) : Failure → Option Report.Summary
  | configuration message =>
    some (.error ("Configuration error: " ++ message) (some message))
  | work message =>
    some (.error (about ++ " failed: " ++ message) (some message))
  | _ => none

end CommandLine.Failure

/-! ### Faults -/

/-- The failure of a text that cannot be a name. -/
def NameFlaw.failure : NameFlaw → Failure
  | .surrogate => .unencodable
  | .null => .unreadable Disk.unnamableText

/-- The failure of a text with settings that have no value. -/
def Yaml.Fault.failure (f : Yaml.Fault) : Failure :=
  match f with
  | .tooDeep => .tooDeep
  | .tooGreat => .tooGreat
  | .noDigits => .noDigits
  | .unknownWord => .missingMember
  | .noMoment => .notObject
  | .noText => .wrongKind
  | f => .unreadable (.ofString (f.message?.getD ""))

/-- The failure of a configuration that cannot be loaded. -/
def Config.LoadFault.failure (f : Config.LoadFault) : Failure :=
  match f with
  | .noHome => .unresolvable
  | .endlessLinks => .unresolvable
  | .unnamable flaw => flaw.failure
  | .inaccessible => .inaccessible
  | .undecodable => .undecodable
  | .value f => f.failure
  | f => .configuration (f.message?.getD "")

/-- The failure of options that are wrong. -/
def Config.OptionsFault.failure (f : Config.OptionsFault) : Failure :=
  match f with
  | .unwritableLevel => .unreadable f.message
  | f => .configuration f.message

/-- The failure of settings that are wrong. -/
def Preprocess.SettingsFault.failure (f : Preprocess.SettingsFault) :
    Failure :=
  match f with
  | .rootNotText => .wrongKind
  | .contextNotObjects => .notObject
  | .definitionsNotText => .wrongKind
  | .endlessLinks => .unresolvable
  | .unnamable flaw => flaw.failure
  | .unwritable => .unreadable Number.unwritableText
  | f => .configuration (f.message?.getD "")

/-- The failure of a text that breaks a limit. -/
def Json.Breach.failure : Json.Breach → Failure
  | .digits n => .unreadable (Number.unreadableText n)
  | .depth => .tooDeep

/-- The failure of a book that cannot be written to its end. -/
def Json.Halt.failure : Json.Halt → Failure
  | .digits => .unreadable Number.unwritableText
  | .depth => .tooDeep

/-- The failure of a document that cannot be decoded. -/
def Record.DecodeError.failure (e : Record.DecodeError) : Failure :=
  match e.breach? with
  | some b => b.failure
  | none => .work e.message

/-- The failure of an input that cannot be read. -/
def Preprocess.InputError.failure (e : Preprocess.InputError) : Failure :=
  match e.breach? with
  | some b => b.failure
  | none => .work e.message

/-- The failure of an export. -/
def Export.Fault.failure (f : Export.Fault) : Failure :=
  match f with
  | .noArguments => .wrongKind
  | .unwritable => .unreadable Number.unwritableText
  | .unnamable flaw => flaw.failure
  | .undecodable => .undecodable
  | .document e => e.failure
  | f => .work (f.message?.getD "")

/-- The failure of a place that cannot be resolved. -/
def Location.Fault.failure (f : Location.Fault) : Failure :=
  match f with
  | .malformed m => .unreadable m.message
  | f => .work f.message

/-- The failure of a book of an unknown form. -/
def Book.BookFault.failure : Book.BookFault → Failure
  | .notObject => .notObject
  | .sectionsNotIterable => .wrongKind
  | .sectionsNotList => .notObject
  | .chapterNotObject => .notObject
  | .numberNotList => .wrongKind
  | .numberIsObject => .missingMember
  | .notNumber => .wrongKind

/-- The failure of chapters that cannot be made. -/
def Book.ChapterFault.failure : Book.ChapterFault → Failure
  | .nameless p => .unreadable (Book.namelessText p)
  | .unwritable => .wrongKind
  | .incomparableLimit => .wrongKind
  | .folderNotText => .notObject
  | .numberNotWhole => .wrongKind

/-- The failure of a part that cannot be added. -/
def Book.PartFault.failure : Book.PartFault → Failure
  | .book f => f.failure
  | .chapter f => f.failure

/-- The failure of a run for a book. -/
def Preprocess.Fault.failure : Preprocess.Fault Export.Fault → Failure
  | .settings f => f.failure
  | .source f => f.failure
  | .location f => f.failure
  | .options f => f.failure
  | .part f => f.failure

/-! ### Results -/

namespace CommandLine

/-- What a run leaves for its caller. -/
structure Result where
  status : Nat := 0
  output : String := ""
  summary : Option Report.Summary := none
  arguments : Option (List Text) := none

/-- The end of a run: a result, or a failure without a report, which may
come after something was printed, or before the arguments are even looked
at. -/
inductive Ending where
  | finished (r : Result)
  | broken (f : Failure) (output : String := "")
  | unstarted (f : Failure)

namespace Ending

/-- The end of a run whose arguments cannot be used. -/
def misuse : Ending := .finished { status := 2 }

/-- The end of a run that failed in work it is `about`. -/
def ofFailure (about : Text) (arguments : Option (List Text))
    (f : Failure) : Ending :=
  match f.summary? about with
  | some s => .finished { status := 1, summary := some s, arguments }
  | none => .broken f

end Ending

end CommandLine

end ApiBook
