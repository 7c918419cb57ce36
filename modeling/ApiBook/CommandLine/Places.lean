/-
Where a run looks on the disk, so that those places can be looked at
beforehand.

* `earlyPaths`: what may be looked at before the configuration is known;
* `latePaths`: what the configuration and the book lead to;
* `logged?`: the log file that a run writes.
-/
import ApiBook.CommandLine.App

namespace ApiBook.CommandLine

/-- The texts in an argument that may be paths: the argument itself, and
the value of a long option or of an option of one letter. -/
def textsIn (arg : String) : List Text :=
  let value : Option Text :=
    (Text.breakAt? '=' arg.toList).map fun (_, v) => .ofChars v
  let tail : List Text :=
    if isOption arg then [.ofChars (arg.toList.drop 2)] else []
  arg :: (value.toList ++ tail)

/-- The paths that may be looked at before the configuration is
known. -/
def earlyPaths (h : Host) (args : List String) : List Path :=
  let given := (args.flatMap textsIn).map Path.ofText
  [variableFile, Config.localFile, Config.userFile h] ++ given
    ++ given.filterMap h.expandHome?

/-- The configuration file that the arguments of a command ask for. -/
def askedBy (switches : List Switch) (mixed : Bool)
    (args : List String) : Option Path := do
  let p ← parse? switches mixed args
  return Path.ofText (← p.value? configSwitch)

/-- The configuration file that arguments ask for. -/
def askedConfig (args : List String) : Option Path := do
  let p ← parse? globalSwitches false args
  match p.rest with
  | "markdown" :: args => askedBy markdownSwitches true args
  | "preprocess" :: args => askedBy preprocessSwitches false args
  | _ => none

/-- The path of the definitions that a book asks for. -/
def definitionsAsked (h : Host) (c : Config) (input : List Char) :
    Option Path :=
  match Preprocess.readInput h.nesting.read
      (.ofChars (Text.unifyNewlines input)) with
  | .error _ => none
  | .ok i =>
    match (do
        let root ← Preprocess.bookRoot i.context
        let table ← Preprocess.settingsTable i.context
        Preprocess.definitionsPath c root table) with
    | .ok p => some p
    | .error _ => none

/-- The paths that the configuration and the book lead to. -/
def latePaths (h : Host) (input : List Char) (args : List String) :
    List Path :=
  match withVariableFile h with
  | .error _ => []
  | .ok h =>
    match Config.loadAsked h (askedConfig args) with
    | .error _ => []
    | .ok c =>
      let programs := match c.exporter with
        | .ok e => Export.candidates h.programFolders e.command
        | .error _ => []
      (definitionsAsked h c input).toList ++ programs.map Path.ofText

/-- The log file that a run with some arguments writes, and what it holds
at the end. -/
def logged? (h : Host) (args : List String) :
    Option (Path × List UInt8) := do
  let p ← parse? globalSwitches false args
  let file ← logFile? p
  if (early? p).isSome then none
  else match (← withLog? h p).read file with
    | .ok content => some (file, content)
    | .error _ => none

end ApiBook.CommandLine
