/-
The text of a tree of files is that of its definitions.

* `Options.level_le`: the level of headings is one of those there are;
* `definitionText_ne_empty`: a definition is never without a text;
* `treeText_eq_join`: the text of a tree some steps below the top;
* `treeText_flat`: **the text of a tree is that of its definitions, one
  after the other**, each as many levels below the first as its file stands
  below the top, as far as there are levels.
-/
import ApiBook.Markdown.Render
import ApiBook.Proofs.Text.Separated
import ApiBook.Proofs.Workspace.Levels

namespace ApiBook.Markdown

open Record (Definition)
open Workspace (Tree)

/-! ### Levels of headings -/

/-- The level of headings is one of those there are. -/
lemma Options.level_le (o : Options) : o.level ≤ maxLevel := by
  rw [level]
  cases h : o.heading with
  | none => decide
  | some n => exact (o.bounded n h).2

/-- One step down, headings are one level deeper, as far as there are
levels. -/
lemma deeper_min (l k : ℕ) :
    deeper (min (l + k) maxLevel) = min (l + (k + 1)) maxLevel := by
  simp only [deeper, maxLevel]
  omega

/-! ### Texts -/

section Texts

variable (level : ℕ) (language : Text)

/-- The texts of the definitions of a file, one for each. -/
def definitionTexts (f : SourceFile) : List Text :=
  f.definitions.map (definitionText level language)

/-- A definition has a heading at least. -/
lemma definitionText_ne_empty (d : Definition) :
    definitionText level language d ≠ ("" : Text) := by
  intro h
  have hlist := congrArg Text.toList h
  simp [definitionText, headingText] at hlist

/-- No definition of a file is without a text. -/
lemma ne_empty_of_mem_definitionTexts {f : SourceFile} {s : Text}
    (h : s ∈ definitionTexts level language f) : s ≠ ("" : Text) := by
  obtain ⟨d, -, rfl⟩ := List.mem_map.mp h
  exact definitionText_ne_empty level language d

/-- The texts of trees, one for each. -/
lemma treeTexts_eq_map (ts : List Tree) :
    treeTexts level language ts = ts.map (treeText level language) := by
  induction ts with
  | nil => rfl
  | cons t ts ih => rw [treeTexts, ih, List.map_cons]

end Texts

/-! ### Trees -/

section Trees

variable (l : ℕ) (language : Text)

/-- The texts of the definitions of a tree that stands `k` steps below a
file with headings of level `l`, in the order in which the tree is
read. -/
def textsFrom (k : ℕ) (t : Tree) : List Text :=
  (t.levels k).flatMap fun p =>
    definitionTexts (min (l + p.1) maxLevel) language p.2.file

/-- First come the definitions of the file at the top, and then those of
the trees below it, one step further down. -/
lemma textsFrom_node (k : ℕ) (f : SourceFile) (ts : List Tree) :
    textsFrom l language k (.node f ts) =
      definitionTexts (min (l + k) maxLevel) language f ++
        ts.flatMap (textsFrom l language (k + 1)) := by
  rw [textsFrom, Tree.levels, List.flatMap_cons, Tree.file_node,
    Tree.levelsAll_eq_flatMap, List.flatMap_assoc]
  rfl

/-- No definition of a tree is without a text. -/
lemma ne_empty_of_mem_textsFrom {k : ℕ} {t : Tree} {s : Text}
    (h : s ∈ textsFrom l language k t) : s ≠ ("" : Text) := by
  obtain ⟨p, -, hs⟩ := List.mem_flatMap.mp h
  exact ne_empty_of_mem_definitionTexts _ _ hs

/-- The text of a tree is that of its definitions, wherever below a file
it stands. -/
lemma treeText_eq_join (k : ℕ) (t : Tree) :
    treeText (min (l + k) maxLevel) language t =
      Text.join "\n" (textsFrom l language k t) := by
  induction t using Tree.ind generalizing k with
  | _ f ts ih =>
    -- every part is a joined text already, and none of what was joined is
    -- empty: so the empty parts are those that were joined from nothing
    have hparts : fileText (min (l + k) maxLevel) language f ::
          treeTexts (min (l + (k + 1)) maxLevel) language ts =
        (definitionTexts (min (l + k) maxLevel) language f ::
          ts.map (textsFrom l language (k + 1))).map (Text.join "\n") := by
      rw [treeTexts_eq_map, List.map_congr_left fun t ht => ih t ht (k + 1),
        List.map_cons, List.map_map]
      rfl
    have hpieces : ∀ ps ∈ definitionTexts (min (l + k) maxLevel) language f ::
        ts.map (textsFrom l language (k + 1)), ∀ s ∈ ps, s ≠ ("" : Text) := by
      refine List.forall_mem_cons.mpr
        ⟨fun s => ne_empty_of_mem_definitionTexts _ _, fun ps hps => ?_⟩
      obtain ⟨t, -, rfl⟩ := List.mem_map.mp hps
      exact fun s => ne_empty_of_mem_textsFrom l language
    rw [treeText, deeper_min, hparts, Text.join_filter_map_join "\n" hpieces,
      textsFrom_node, List.flatten_cons, ← List.flatMap_def]

/-- Of a tree without definitions there is no text. -/
lemma textsFrom_eq_nil_iff (k : ℕ) (t : Tree) :
    textsFrom l language k t = [] ↔ ∀ f ∈ t.walk, f.definitions = [] := by
  rw [textsFrom, List.flatMap_eq_nil_iff, ← Tree.map_file_subtrees,
    ← Tree.map_snd_levels k, List.map_map, List.forall_mem_map]
  exact forall₂_congr fun p _ => List.map_eq_nil_iff

end Trees

/-- **The text of a tree is that of its definitions, one after the
other.** They stand in the order in which the tree is read, with one line
end between each two of them: those of a file `k` steps below the top are
`k` levels deeper than those of the first file, but never deeper than the
last level, and in the same language. So files without definitions leave
no trace, and there is no text at all exactly if no file has any. -/
theorem treeText_flat (o : Options) (t : Tree) :
    (t.levels 0).map (fun p => p.2.file) = t.walk ∧
    treeText o.level o.language t =
      Text.join "\n" ((t.levels 0).flatMap fun p =>
        p.2.file.definitions.map
          (definitionText (min (o.level + p.1) maxLevel) o.language)) ∧
    (treeText o.level o.language t = ("" : Text) ↔
      ∀ f ∈ t.walk, f.definitions = []) := by
  have htext : treeText o.level o.language t =
      Text.join "\n" (textsFrom o.level o.language 0 t) := by
    rw [← treeText_eq_join, Nat.add_zero, Nat.min_eq_left o.level_le]
  refine ⟨?_, htext, ?_⟩
  · rw [← Tree.map_file_subtrees, ← Tree.map_snd_levels 0, List.map_map]
    rfl
  · rw [htext, Text.join_eq_empty_iff "\n" fun s =>
      ne_empty_of_mem_textsFrom o.level o.language, textsFrom_eq_nil_iff]

end ApiBook.Markdown
