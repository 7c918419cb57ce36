/-
Settings in use: how definitions are rendered, and the program that
exports them.

* `Config.markdownOptions`: the options of the rendering;
* `Config.exporter`: the name of the program and its further arguments.
-/
import ApiBook.Config.Basic
import ApiBook.Markdown.Options
import ApiBook.Setting.Display
import ApiBook.Text.Pieces

namespace ApiBook.Config

/-! ### Rendering -/

/-- Why settings are no options of the rendering. Settings that cannot be
written are a fault of their own. -/
inductive OptionsFault where
  | levelNotWhole (literal : String)
  | levelOutOfRange (level : Int)
  | unwritable
  | unwritableLevel
  deriving DecidableEq, Repr

/-- The wording of a fault in the options of the rendering. -/
def OptionsFault.message : OptionsFault → Text
  | levelNotWhole literal =>
    .ofString ("markdown.heading_level must be an integer, got " ++ literal)
  | levelOutOfRange level => Markdown.outOfRangeText (.int level)
  | unwritable => Number.unwritableText
  | unwritableLevel => Number.unwritableText

/-- A level that is out of range, if it can be written. -/
def outOfRange (level : Int) : OptionsFault :=
  if Number.isWritable level then .levelOutOfRange level else .unwritable

/-- The level of headings that a setting stands for; null stands for
none. -/
def levelOf : Setting → Except OptionsFault (Option Int)
  | .scalar .null => .ok none
  | .scalar (.number (.whole level)) => .ok (some level)
  | v =>
    match v.literal? with
    | some literal => .error (.levelNotWhole literal)
    | none => .error .unwritableLevel

/-- The options with a level and a language. -/
def optionsFor (level : Option Int) (language : Text) :
    Except OptionsFault Markdown.Options :=
  match level with
  | none => .ok { language }
  | some level =>
    match Markdown.Options.ofLevel? level.toNat language with
    | some o => .ok o
    | none => .error (outOfRange level)

/-- The options of the rendering. -/
def markdownOptions (c : Config) :
    Except OptionsFault Markdown.Options := do
  let level ← levelOf (c.get "markdown.heading_level" .null)
  match (c.get "markdown.language" (.text "lua")).display? with
  | some language => optionsFor level language
  | none => throw .unwritable

/-! ### The exporter -/

/-- Why settings name no program to run. -/
inductive ExporterFault where
  | notArguments
  | unwritable
  deriving DecidableEq, Repr

/-- The words of a text. -/
def wordsOf (s : Text) : List Text :=
  (Text.words (·.meets Text.isSpacing) s.toList).map .ofList

/-- The parts of a setting, each to be an argument: the words of a text,
the items of a list, the keys of a table, and none if it is void. -/
def argumentParts (v : Setting) : Except ExporterFault (List Setting) :=
  if v.isVoid then .ok []
  else match v with
    | .scalar (.text s) => .ok ((wordsOf s).map .text)
    | .scalar (.bytes bs) => .ok (bs.map fun b => .int b.toNat)
    | .pair v w => .ok [v, w]
    | .set members => .ok (members.map .scalar)
    | v =>
      match v.items?, v.entries? with
      | some items, _ => .ok items
      | none, some es => .ok (es.map fun (k, _) => .scalar k)
      | none, none => .error .notArguments

/-- A setting in writing. -/
def written (v : Setting) : Except ExporterFault Text :=
  match v.display? with
  | some s => .ok s
  | none => .error .unwritable

/-- A program and its further arguments. -/
structure Exporter where
  command : Text
  arguments : List Text
  deriving DecidableEq, Repr

/-- The program that exports definitions. -/
def exporter (c : Config) : Except ExporterFault Exporter := do
  let command ← written (c.get "luals.command" (.text "lua-language-server"))
  let parts ← argumentParts (c.get "luals.extra_args" (.list []))
  return { command, arguments := ← parts.mapM written }

end ApiBook.Config
