/-
Adding a reference to a book.

* `readInput`: the context and the book that a book tool hands over, or why a
  text is no such input (`InputError`);
* `addReference`: a part for the files of a workspace;
* `Run`: the folder that definitions were asked for, what is to be noted,
  and the book as the run leaves it;
* `run`: the run for an input, with any source of definitions;
* `handle`: what is written for the text of an input;
* `supportsRenderer`: the renderers that chapters are made for.
-/
import ApiBook.Book.Part
import ApiBook.Config.Options
import ApiBook.Json.Writer
import ApiBook.Preprocess.Settings
import ApiBook.Workspace.Load

namespace ApiBook.Preprocess

open Book (InPlace)
open Record (Definition)

/-! ### Input -/

/-- Why a text is no input. -/
inductive InputError where
  | malformed (text : Text) (fault : Json.Fault)
  | notPair
  deriving DecidableEq, Repr

/-- The wording of an input error. -/
def InputError.message : InputError → String
  | malformed text fault =>
    "Malformed preprocessor input: " ++ fault.message text
  | notPair => "Preprocessor input must be a [context, book] JSON array"

/-- The limit that a text breaks which may be an input for all that. -/
def InputError.breach? : InputError → Option Json.Breach
  | malformed _ fault => fault.breach?
  | notPair => none

/-- The context of a run, and the book it works on. -/
structure Input where
  context : Members
  book : Members

/-- The context and the book of a text that is a list of two objects, in
which lists and objects may be nested to a depth. -/
def readInput (depth : Nat) (text : Text) : Except InputError Input :=
  match Json.parse depth text with
  | .error f => .error (.malformed text f)
  | .ok (.list [.object context, .object book]) => .ok ⟨context, book⟩
  | .ok _ => .error .notPair

/-- The renderers that chapters are made for. -/
def renderers : List String := ["html", "epub"]

/-- Whether chapters are made for a renderer. -/
def supportsRenderer (renderer : String) : Bool :=
  renderers.contains renderer

/-! ### Faults -/

/-- Why there is no book. Definitions may be missing for a reason of
their source. -/
inductive Fault (ε : Type) where
  | settings (f : SettingsFault)
  | source (e : ε)
  | location (f : Location.Fault)
  | options (f : Config.OptionsFault)
  | part (f : Book.PartFault)

/-- What came of a run: the folder that definitions were asked for, what
is to be noted, whether the run came to its end, and the book as it is
left in either case. -/
structure Run (ε : Type) where
  folder : Option Path
  notices : List Text
  result : Except (Fault ε) Unit
  book : Members

/-! ### The part -/

/-- What is noted if a folder has no definitions. -/
def emptyText (folder : Path) : Text :=
  "No definitions found under " ++ folder.text

/-- The chapters that settings ask for. -/
def requestFor (s : Settings) (o : Markdown.Options) :
    Book.ChapterRequest where
  options := .writable o
  folder := .text s.folder
  limit := match s.navDepth with
    | none => .null
    | some n => .int n

/-- A part of the book for the files of a workspace, if there are any. -/
def addReference {ε : Type} (c : Config) (s : Settings) (w : Workspace) :
    InPlace (Fault ε) Unit :=
  if w.forest.isEmpty then pure ()
  else match c.markdownOptions with
    | .error f => throw (.options f)
    | .ok o => (Book.addPart s.title (requestFor s o) w).adapt .part

/-- What is to be noted of a workspace. -/
def noticesOf (s : Settings) (w : Workspace) : List Text :=
  (Workspace.orphans w.entries).map Workspace.orphanText
    ++ if w.forest.isEmpty then [emptyText s.definitions] else []

/-! ### Runs -/

/-- The run for settings. -/
def runWith {ε : Type} (h : Host) (c : Config)
    (source : Path → Except ε (List Definition)) (s : Settings)
    (book : Members) : Run ε :=
  match source s.definitions with
  | .error e => ⟨some s.definitions, [], .error (.source e), book⟩
  | .ok ds =>
    match Workspace.build (Path.ofPlace h.current) s.definitions ds with
    | .error f => ⟨some s.definitions, [], .error (.location f), book⟩
    | .ok w =>
      let (result, book) := (addReference c s w).on book
      ⟨some s.definitions, noticesOf s w, result, book⟩

/-- The run for an input, with a source that gives the definitions of a
folder. -/
def run {ε : Type} (h : Host) (c : Config)
    (source : Path → Except ε (List Definition)) (i : Input) : Run ε :=
  match settings h c i.context with
  | .error f => ⟨none, [], .error (.settings f), i.book⟩
  | .ok s => runWith h c source s i.book

/-! ### Texts -/

/-- What came of the text of an input: the run, if the text could be
read, and what was written. -/
structure Handled (ε : Type) where
  run : Except InputError (Run ε)
  written : Json.Written

/-- The run for the text of an input. The book is written once the run
has come to its end; before that nothing is. -/
def handle {ε : Type} (h : Host) (c : Config)
    (source : Path → Except ε (List Definition)) (text : Text) :
    Handled ε :=
  match readInput h.nesting.read text with
  | .error e => ⟨.error e, .whole []⟩
  | .ok i =>
    let r := run h c source i
    match r.result with
    | .error _ => ⟨.ok r, .whole []⟩
    | .ok () =>
      ⟨.ok r, Json.writeValue h.nesting.written (.object r.book)⟩

end ApiBook.Preprocess
