/-
The commands.

* `markdown`: the definitions of a folder as one text;
* `preprocess`: a book with the reference added to it;
* `supports`: whether chapters are made for a renderer.
-/
import ApiBook.CommandLine.Arguments
import ApiBook.CommandLine.Failure
import ApiBook.Markdown.Render
import ApiBook.Number.Loose
import ApiBook.Text.Printed
import ApiBook.Workspace.Selection

namespace ApiBook.CommandLine

open Record (Definition)

/-! ### Options -/

/-- The option for help. -/
def helpSwitch : Switch := { names := ["--help"], letters := ['h'] }

/-- The option for a configuration file. -/
def configSwitch : Switch :=
  { names := ["--config"], letters := ['c'], takesValue := true }

/-- The option for a document that was exported before. -/
def jsonSwitch : Switch :=
  { names := ["--json"], letters := ['j'], takesValue := true }

/-- The option for the level of headings. -/
def levelSwitch : Switch :=
  { names := ["--heading-level"], takesValue := true }

/-! ### Markdown -/

/-- A request for the definitions of a folder as one text. -/
structure MarkdownRequest where
  folder : Path
  document : Option Path
  level : Option { n : Nat // 1 ≤ n ∧ n ≤ Markdown.maxLevel }
  config : Option Path

/-- The options with the level that was asked for. -/
def withLevel (o : Markdown.Options) :
    Option { n : Nat // 1 ≤ n ∧ n ≤ Markdown.maxLevel } → Markdown.Options
  | none => o
  | some n => ⟨some n.1, o.language, by simpa using n.2⟩

/-- The definitions for a request: those of a document, or exported from
the folder. -/
def definitionsFor (h : Host) (c : Config) (folder : Path) :
    Option Path → Export.Run
  | some document => ⟨none, Export.readDocument h [] document⟩
  | none => Export.run h c folder

/-- The text for the definitions that lie in a folder; none if there are
none. -/
def textUnder (o : Markdown.Options) (folder : Path)
    (ds : List Definition) : Except Location.Fault (Option Text) := do
  let kept ← selectUnder folder ds
  if kept.isEmpty then return none
  else return some (Markdown.definitionsText o.level o.language kept)

/-- The configuration and the options for a request. -/
def prepare (h : Host) (r : MarkdownRequest) :
    Except Failure (Config × Markdown.Options) :=
  match Config.loadAsked h r.config with
  | .error f => .error f.failure
  | .ok c =>
    match c.markdownOptions with
    | .error f => .error f.failure
    | .ok o => .ok (c, withLevel o r.level)

/-- What a run for some definitions ends with. -/
def markdownEnding (o : Markdown.Options) (folder : Path)
    (r : Export.Run) : Ending :=
  let failed := Ending.ofFailure "Documentation generation" r.arguments
  match r.result with
  | .error f => failed f.failure
  | .ok ds =>
    match textUnder o folder ds with
    | .error f => failed f.failure
    | .ok none =>
      .finished {
        summary := some (.warning (Preprocess.emptyText folder))
        arguments := r.arguments }
    | .ok (some text) =>
      match text.chars? with
      | some cs =>
        .finished { output := Text.printed cs, arguments := r.arguments }
      | none => .broken .unencodable

/-- The definitions of a folder as one text. -/
def markdown (h : Host) (r : MarkdownRequest) : Ending :=
  match h.resolve false r.folder with
  | .error _ => .broken .unresolvable
  | .ok folder =>
    match prepare h r with
    | .error f => .ofFailure "Documentation generation" none f
    | .ok (c, o) =>
      markdownEnding o folder (definitionsFor h c folder r.document)

/-! ### Preprocessing -/

/-- What the text of an input for a book ends with. -/
def preprocessEnding (h : Host) (c : Config)
    (r : Preprocess.Handled Export.Fault) : Ending :=
  let failed := Ending.ofFailure "Preprocessing"
  match r.run with
  | .error e => failed none e.failure
  | .ok run =>
    let arguments := run.folder.bind fun p => (Export.run h c p).arguments
    let output := String.ofList r.written.text
    match run.result with
    | .error f => failed arguments f.failure
    | .ok () =>
      match r.written.halt? with
      | none => .finished { output, arguments }
      | some halt => .broken halt.failure output

/-- The book of an input with the reference added to it. -/
def preprocess (h : Host) (config : Option Path) (input : List Char) :
    Ending :=
  match Config.loadAsked h config with
  | .error f => .ofFailure "Preprocessing" none f.failure
  | .ok c =>
    preprocessEnding h c
      (Preprocess.handle h c (fun p => (Export.run h c p).result)
        (.ofChars (Text.unifyNewlines input)))

/-- Whether chapters are made for a renderer, as an exit status. -/
def supports (renderer : String) : Ending :=
  .finished { status := if Preprocess.supportsRenderer renderer then 0 else 1 }

end ApiBook.CommandLine
