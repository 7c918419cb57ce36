/-
The outline of a workspace: its trees without the definitions.

* `Tree.outline`: a tree whose files hold no definitions;
* `map_outline_forest`: the outlines of the trees are read off those of the
  entries;
* `map_outline_entries_addAll`: the outlines of the entries depend on the
  files only up to their definitions.
-/
import ApiBook.Proofs.Workspace.Forest

namespace ApiBook

/-- A file without its definitions. -/
def SourceFile.outline (f : SourceFile) : SourceFile :=
  { f with definitions := [] }

namespace Workspace

/-- An entry without the definitions of its file. -/
def Entry.outline (e : Entry) : Entry := ⟨e.file.outline, e.parent⟩

mutual

/-- A tree without the definitions of its files. -/
def Tree.outline : Tree → Tree
  | .node f ts => .node f.outline (Tree.outlines ts)

/-- Trees without the definitions of their files. -/
def Tree.outlines : List Tree → List Tree
  | [] => []
  | t :: ts => t.outline :: Tree.outlines ts

end

lemma Tree.outlines_eq_map (ts : List Tree) :
    Tree.outlines ts = ts.map Tree.outline := by
  induction ts with
  | nil => rfl
  | cons t ts ih => rw [Tree.outlines, ih, List.map_cons]

/-- The outlines of the trees of entries are the trees of the outlines of
the entries. -/
lemma map_outline_treesFrom (i : ℕ) (es : List Entry) :
    (treesFrom i es).map (fun x => (x.1, x.2.outline)) =
      treesFrom i (es.map Entry.outline) := by
  induction es generalizing i with
  | nil => rfl
  | cons e es ih =>
      rw [List.map_cons, treesFrom, treesFrom, ← ih (i + 1), List.filter_map,
        List.filter_map, List.map_cons, Tree.outline, Tree.outlines_eq_map,
        List.map_map, List.map_map]
      rfl

/-- The outline of the trees of a workspace is read off the outlines of
its entries. -/
lemma map_outline_forest (w : Workspace) :
    w.forest.map Tree.outline =
      (treesFrom 0 (w.entries.map Entry.outline)).map (·.2) := by
  rw [← map_outline_treesFrom, forest, List.map_map, List.map_map]
  rfl

/-- Where a file finds its parent does not depend on any definitions. -/
lemma findParent?_outline (es : List Entry) (f : SourceFile) :
    findParent? (es.map Entry.outline) f.outline = findParent? es f := by
  rw [findParent?, findParent?, List.findIdx?_map]
  rfl

/-- The outlines of the entries of a workspace that files are added to
depend on the outlines of the files. -/
lemma map_outline_entries_addAll {v w : Workspace}
    (h : v.entries.map Entry.outline = w.entries.map Entry.outline)
    {fs gs : List SourceFile}
    (hfs : fs.map SourceFile.outline = gs.map SourceFile.outline) :
    (v.addAll fs).entries.map Entry.outline =
      (w.addAll gs).entries.map Entry.outline := by
  induction fs generalizing v w gs with
  | nil =>
      obtain rfl : gs = [] := by simpa using hfs.symm
      exact h
  | cons f fs ih =>
      cases gs with
      | nil => simp at hfs
      | cons g gs =>
          rw [List.map_cons, List.map_cons, List.cons.injEq] at hfs
          refine ih (v := v.add f) (w := w.add g) ?_ hfs.2
          have hparent : findParent? v.entries f = findParent? w.entries g := by
            rw [← findParent?_outline, h, hfs.1, findParent?_outline]
          simp only [add, List.map_append, h, hparent, List.map_cons,
            List.map_nil, Entry.outline, hfs.1]

end Workspace

end ApiBook
