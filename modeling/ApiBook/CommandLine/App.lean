/-
The command line.

* `run`: the end of a run with some arguments;
* `markdownCommand`, `preprocessCommand`: the commands, with arguments
  still to be checked;
* `withVariableFile`: the host with the variables of the file in the
  current folder.
-/
import ApiBook.CommandLine.Commands
import ApiBook.Report.Log
import ApiBook.VariableFile

namespace ApiBook.CommandLine

/-! ### Texts -/

/-- What is printed for the version. -/
def versionText : String := "luacats-doc version: 0.1.0\n"

/-- What is printed for help. -/
def helpText : String :=
  "Usage: luacats-doc [OPTIONS] COMMAND [ARGS]...\n"
    ++ "\n"
    ++ "Options:\n"
    ++ "  -v, --verbose    Enable verbose logging.\n"
    ++ "  --log-file FILE  Also write debug logs to this file.\n"
    ++ "  --version        Show version and exit.\n"
    ++ "  -h, --help       Show this message and exit.\n"
    ++ "\n"
    ++ "Commands:\n"
    ++ "  markdown PATH [-j FILE] [--heading-level N] [-c FILE]\n"
    ++ "  preprocess [-c FILE] [supports RENDERER]\n"

/-- The end of a run that only prints a text. -/
def printed (output : String) : Ending := .finished { output }

/-! ### Checks -/

/-- The level that a text stands for: a whole number in range. -/
def levelOfText? (s : String) :
    Option { n : Nat // 1 ≤ n ∧ n ≤ Markdown.maxLevel } :=
  match Number.looseWhole s.toList with
  | .ok (.ofNat n) =>
    if h : 1 ≤ n ∧ n ≤ Markdown.maxLevel then some ⟨n, h⟩ else none
  | _ => none

/-- The path that a text stands for, if it leads to something that passes
a check. -/
def pathTo? (h : Host) (passes : Node → Bool) (s : String) : Option Path :=
  let p := Path.ofText s
  if (h.nodeAt? p).any passes then some p else none

/-- Whether something is a folder. -/
def isFolder : Node → Bool
  | .folder => true
  | _ => false

/-- Whether something holds bytes. -/
def isFile : Node → Bool
  | .file _ => true
  | .program .. => true
  | _ => false

/-- A value that may be missing but otherwise has to pass a check. -/
def checked {α : Type} (read : String → Option α) :
    Option String → Option (Option α)
  | none => some none
  | some s => (read s).map some

/-! ### Options that end a run -/

/-- The option for the version. -/
def versionSwitch : Switch := { names := ["--version"] }

/-- The first option that ends a run before anything else is looked
at. -/
def early? (p : Parsed) : Option Ending :=
  (p.options.find? fun g =>
      g.switch = helpSwitch || g.switch = versionSwitch).map fun g =>
    printed (if g.switch = helpSwitch then helpText else versionText)

/-- The end of a run whose arguments name no command: they may still give
an option that ends it, after two dashes. -/
def unnamed (switches : List Switch) (args : List String) : Ending :=
  ((parse? switches false args).bind early?).getD .misuse

/-! ### Commands -/

/-- The request that arguments stand for. -/
def markdownRequest? (h : Host) (p : Parsed) : Option MarkdownRequest := do
  match p.rest with
  | [folder] =>
    let folder ← pathTo? h (!isFile ·) folder
    let document ← checked (pathTo? h (!isFolder ·)) (p.value? jsonSwitch)
    let level ← checked levelOfText? (p.value? levelSwitch)
    return {
      folder
      document
      level
      config := (p.value? configSwitch).map (Path.ofText ·) }
  | _ => none

/-- The options of a request for one text. -/
def markdownSwitches : List Switch :=
  [jsonSwitch, levelSwitch, configSwitch, helpSwitch]

/-- The definitions of a folder as one text. -/
def markdownCommand (h : Host) (args : List String) : Ending :=
  match parse? markdownSwitches true args with
  | none => .misuse
  | some p =>
    if p.has helpSwitch then printed helpText
    else match markdownRequest? h p with
      | none => .misuse
      | some r => markdown h r

/-- Whether chapters are made for a renderer. -/
def supportsCommand (args : List String) : Ending :=
  match parse? [helpSwitch] true args with
  | none => .misuse
  | some p =>
    if p.has helpSwitch then printed helpText
    else match p.rest with
      | [renderer] => supports renderer
      | _ => .misuse

/-- The options of a request for a book. -/
def preprocessSwitches : List Switch := [configSwitch, helpSwitch]

/-- A book with the reference added to it, or an answer about a
renderer. -/
def preprocessCommand (h : Host) (input : List Char)
    (args : List String) : Ending :=
  match parse? preprocessSwitches false args with
  | none => .misuse
  | some p =>
    if p.has helpSwitch then printed helpText
    else match p.rest with
      | [] =>
        preprocess h ((p.value? configSwitch).map (Path.ofText ·)) input
      | "supports" :: args => supportsCommand args
      | args => unnamed preprocessSwitches args

/-! ### Runs -/

/-- The option for a full log. -/
def verboseSwitch : Switch := { names := ["--verbose"], letters := ['v'] }

/-- The option for a file to log to. -/
def logSwitch : Switch := { names := ["--log-file"], takesValue := true }

/-- The options that come before the name of a command. -/
def globalSwitches : List Switch :=
  [verboseSwitch, logSwitch, versionSwitch, helpSwitch]

/-- The file to log to. -/
def logFile? (p : Parsed) : Option Path :=
  (p.value? logSwitch).map (Path.ofText ·)

/-- The host with the log that was asked for. -/
def withLog? (h : Host) (p : Parsed) : Option Host :=
  (Report.Log.setup? h (p.has verboseSwitch) true (logFile? p)).map (·.2)

/-- What a command ends with on the host with the log. -/
def logged (h : Host) (p : Parsed) (command : Host → Ending) : Ending :=
  match withLog? h p with
  | none => .broken (.unreadable Disk.unnamableText)
  | some h => command h

/-- The command that arguments name. -/
def dispatch (h : Host) (input : List Char) (p : Parsed) : Ending :=
  if ((p.value? logSwitch).bind (pathTo? h isFolder)).isSome then .misuse
  else match p.rest with
    | "markdown" :: args => logged h p (markdownCommand · args)
    | "preprocess" :: args => logged h p (preprocessCommand · input args)
    | args => unnamed globalSwitches args

/-- The file of variables in the current folder. -/
def variableFile : Path := ⟨.relative, [".env"]⟩

/-- The host with the variables of the file in the current folder. -/
def withVariableFile (h : Host) : Except Failure Host :=
  match h.read variableFile with
  | .error _ => .ok h
  | .ok content =>
    match Host.textOf? content with
    | none => .error .undecodable
    | some text =>
      match VariableFile.addTo h.environment text with
      | .ok environment => .ok { h with environment }
      | .error f => .error (.unreadable f.message)

/-- The end of a run with some arguments. -/
def run (h : Host) (input : List Char) (args : List String) : Ending :=
  match withVariableFile h with
  | .error f => .unstarted f
  | .ok h =>
    if args.isEmpty then .finished { status := 2, output := helpText }
    else match parse? globalSwitches false args with
      | none => .misuse
      | some p => (early? p).getD (dispatch h input p)

end ApiBook.CommandLine
