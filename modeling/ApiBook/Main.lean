/-
The program: a run on what is found around it.

The places that a run looks at are read beforehand; the run itself then
works on what was read. Programs are never started: one that is found
counts as a file that cannot be run.
-/
import ApiBook.CommandLine.Places

namespace ApiBook.Console

/-! ### What is found -/

/-- The environment variables. -/
def readVariables : IO Variables := do
  let content ← try IO.FS.readBinFile "/proc/self/environ"
    catch _ => pure ByteArray.empty
  let entries := Text.split (Char.ofNat 0)
    (Text.decodeUtf8Lossy content.toList)
  return entries.filterMap fun e =>
    (Text.breakAt? '=' e).map fun (name, value) =>
      (String.ofList name, String.ofList value)

/-- A path as the system takes it; there is none with a surrogate. -/
def systemText? (p : Path) : Option String :=
  p.text.chars?.map String.ofList

/-- One name further into a disk, from a place that was reached; what is
found there is kept, and a link leads to where it points. -/
def lookFurther (seen : Disk × Option Place) (name : Text) :
    IO (Disk × Option Place) := do
  match seen with
  | (d, none) => return (d, none)
  | (d, some place) =>
    if name = ".." then return (d, some place.dropLast)
    else
      let here := place ++ [name]
      match systemText? (.ofPlace here) with
      | none => return (d, none)
      | some path =>
        try
          let real ← IO.FS.realPath path
          let reached := (Path.ofText real.toString).parts
          let node ← if ← real.isDir then pure Node.folder
            else pure (Node.file (← IO.FS.readBinFile real).toList)
          let d := Disk.putBelow reached node d
          let d := if reached = here then d
            else Disk.putBelow here (.link real.toString) d
          return (d, some reached)
        catch _ => return (d, none)

/-- The disk with what a path leads to. -/
def look (current : Place) (d : Disk) (p : Path) : IO Disk := do
  let names := if p.isAbsolute then p.parts else current ++ p.parts
  return (← names.foldlM lookFurther (d, some [])).1

/-- The host with what paths lead to on its disk. -/
def lookAll (h : Host) (ps : List Path) : IO Host := do
  let disk ← ps.foldlM (look h.current) h.disk
  return { h with disk }

/-- The room for nesting that is common. -/
def nesting : Nesting where
  read := 990
  written := 990
  settings := 485

/-- The host before any path is looked at. -/
def findHost : IO Host := do
  let environment ← readVariables
  let current := (Path.ofText (← IO.currentDir).toString).parts
  let home := Path.ofText ((environment.lookup "HOME").getD "/")
  let configFolder := match environment.lookup "XDG_CONFIG_HOME" with
    | some s => Path.ofText s
    | none => home.append ⟨.relative, [".config"]⟩
  let temporary := Path.ofText ((environment.lookup "TMPDIR").getD "/tmp")
  return {
    disk := Disk.putFolders current {}
    current
    homes := [("", home)]
    configFolder
    programFolders := Text.splitText ':' ((environment.lookup "PATH").getD "")
    scratch := temporary.append ⟨.relative, ["apibook"]⟩
    environment
    nesting }

/-- The text that is handed to a run, which only a book comes with. -/
def readInput (args : List String) : IO (Option (List Char)) := do
  if args.contains "preprocess" then
    return Text.decodeUtf8? (← IO.FS.readBinFile "/dev/stdin").toList
  else return some []

/-! ### What is left -/

/-- Writes the log that was asked for. -/
def writeLog (h : Host) (args : List String) : IO Unit := do
  match CommandLine.logged? h args with
  | none => return
  | some (file, content) =>
    if let (some folder, some path) :=
        (systemText? file.parent, systemText? file) then
      IO.FS.createDirAll folder
      IO.FS.writeBinFile path ⟨content.toArray⟩

/-- Prints what a run ends with, and gives its status. -/
def report : CommandLine.Ending → IO UInt32
  | .finished r => do
    IO.print r.output
    if let some s := r.summary then
      IO.eprintln (s.title ++ "\n\n" ++ s.shown ++ "\n")
    return r.status.toUInt32
  | .broken _ output => do
    IO.print output
    IO.eprintln "The run broke off."
    return 1
  | .unstarted _ => do
    IO.eprintln "The run could not start."
    return 1

end ApiBook.Console

/-- The program. -/
def main (args : List String) : IO UInt32 := do
  let h ← ApiBook.Console.findHost
  match ← ApiBook.Console.readInput args with
  | none => ApiBook.Console.report (.broken .undecodable)
  | some input =>
    let h ← ApiBook.Console.lookAll h
      (ApiBook.CommandLine.earlyPaths h args)
    let h ← ApiBook.Console.lookAll h
      (ApiBook.CommandLine.latePaths h input args)
    ApiBook.Console.writeLog h args
    ApiBook.Console.report (ApiBook.CommandLine.run h input args)
