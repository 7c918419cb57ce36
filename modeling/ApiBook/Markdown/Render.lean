/-
Definitions as Markdown.

* `definitionText`: a heading, the description, and a code block for
  every refinement of every place;
* `definitionsText`: definitions one after the other;
* `treeText`: a file with the files below it, each level of files one
  level of headings deeper;
* `Request.definitionsText?`, `Request.fileTexts?`: the texts for options as
  they are asked for. At a level between two levels no heading can be
  written; texts without headings come out all the same.
-/
import ApiBook.Markdown.Options
import ApiBook.Workspace.Basic

namespace ApiBook.Markdown

open Record (Definition)

/-- A heading of a level, with an empty line after it. -/
def headingText (level : Nat) (title : Text) : Text :=
  Text.ofChars (List.replicate level '#') ++ " " ++ title ++ "\n\n"

/-- A code block, with an empty line after it. -/
def codeText (language code : Text) : Text :=
  "```" ++ language ++ "\n" ++ code ++ "\n```\n\n"

/-- The code blocks of a definition. -/
def codeTexts (language : Text) (d : Definition) : List Text :=
  d.defines.flatMap fun p =>
    p.refinements.map fun e => codeText language e.view

/-- The description of a definition, with an empty line after it. -/
def descriptionText (d : Definition) : Text :=
  match d.description with
  | some text => text ++ "\n\n"
  | none => ""

/-- A definition at a level. -/
def definitionText (level : Nat) (language : Text) (d : Definition) :
    Text :=
  headingText level d.name ++ descriptionText d
    ++ Text.join "" (codeTexts language d)

/-- Definitions at a level, one after the other. -/
def definitionsText (level : Nat) (language : Text)
    (ds : List Definition) : Text :=
  Text.join "\n" (ds.map (definitionText level language))

/-- The definitions of a file. -/
def fileText (level : Nat) (language : Text) (f : SourceFile) :
    Text :=
  definitionsText level language f.definitions

mutual

/-- The definitions of a file and of the files below it; files without
definitions leave no trace. -/
def treeText (level : Nat) (language : Text) :
    Workspace.Tree → Text
  | .node f subs =>
    Text.join "\n" <|
      (fileText level language f :: treeTexts (deeper level) language subs)
        |>.filter (!·.isEmpty)

/-- The texts of trees, one for each. -/
def treeTexts (level : Nat) (language : Text) :
    List Workspace.Tree → List Text
  | [] => []
  | t :: ts => treeText level language t :: treeTexts level language ts

end

/-! ### Options on request -/

namespace Request

/-- The text of definitions. -/
def definitionsText? (r : Request) (ds : List Definition) :
    Option Text :=
  match r with
  | writable o => some (definitionsText o.level o.language ds)
  | unwritable => if ds.isEmpty then some "" else none

/-- For every file of a workspace, in order: its path, the text of its
own definitions, and the text with the files below it. -/
def fileTexts? (r : Request) (w : Workspace) :
    Option (List (Path × Text × Text)) :=
  match r with
  | writable o =>
    some ((Workspace.Tree.subtreesAll w.forest).map fun t =>
      (t.file.path, fileText o.level o.language t.file,
        treeText o.level o.language t))
  | unwritable =>
    if w.walk.all (·.definitions.isEmpty) then
      some (w.walk.map fun f => (f.path, "", ""))
    else none

end Request

end ApiBook.Markdown
