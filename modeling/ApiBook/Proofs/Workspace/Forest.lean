/-
The trees of a workspace, read off its entries.

* `Tree.ind`: what holds of a tree once it holds of the trees below it
  holds of every tree;
* `walk_perm`: the trees hold every file, as often as it was added;
* `Linked`: each entry has the parent that was found among the entries
  before it; `linked_addAll`: the entries of every workspace that files
  are added to are linked;
* `map_file_forest`: the files at the top are those without a parent, in
  the order in which they came;
* `subtrees_perm`: below a file stand the files that have it as their
  parent, in the order in which they came.
-/
import ApiBook.Workspace.Basic
import Mathlib.Data.List.Basic
import Mathlib.Tactic.Common

namespace ApiBook.Workspace

/-! ### Trees -/

namespace Tree

/-- What is inherited from the trees below holds of every tree. -/
@[elab_as_elim]
theorem ind {P : Tree → Prop}
    (h : ∀ f ts, (∀ t ∈ ts, P t) → P (.node f ts)) : ∀ t, P t
  | .node f ts => h f ts fun t _ => ind h t

@[simp] lemma file_node (f : SourceFile) (ts : List Tree) :
    (node f ts).file = f := rfl

@[simp] lemma subs_node (f : SourceFile) (ts : List Tree) :
    (node f ts).subs = ts := rfl

/-- The files of trees, one tree after the other. -/
lemma walkAll_eq_flatMap (ts : List Tree) :
    walkAll ts = ts.flatMap walk := by
  induction ts with
  | nil => rfl
  | cons t ts ih => rw [walkAll, ih, List.flatMap_cons]

/-- The trees within trees, one tree after the other. -/
lemma subtreesAll_eq_flatMap (ts : List Tree) :
    subtreesAll ts = ts.flatMap subtrees := by
  induction ts with
  | nil => rfl
  | cons t ts ih => rw [subtreesAll, ih, List.flatMap_cons]

/-- The files of a tree are the files at the top of the trees within
it. -/
lemma map_file_subtrees (t : Tree) : t.subtrees.map file = t.walk := by
  induction t using ind with
  | _ f ts ih =>
      rw [subtrees, walk, List.map_cons, file_node, subtreesAll_eq_flatMap,
        walkAll_eq_flatMap, List.map_flatMap]
      congr 1
      exact List.flatMap_congr ih

/-- A file, and the files right below it. -/
def family (t : Tree) : SourceFile × List SourceFile :=
  (t.file, t.subs.map file)

end Tree

/-! ### Entries and trees -/

/-- The trees whose parent has the place `p`, and all the others, are all
the trees. -/
lemma filter_place_perm (p : Option ℕ) (ts : List (Option ℕ × Tree)) :
    (ts.filter (·.1 == p) ++ ts.filter (·.1 != p)).Perm ts :=
  List.filter_append_perm _ ts

/-- The trees hold the files of the entries. -/
lemma walkAll_treesFrom_perm (i : ℕ) (es : List Entry) :
    (Tree.walkAll ((treesFrom i es).map (·.2))).Perm (es.map (·.file)) := by
  induction es generalizing i with
  | nil => simp [treesFrom, Tree.walkAll]
  | cons e es ih =>
      have hparts := (filter_place_perm (some i)
        (treesFrom (i + 1) es)).map (·.2)
      rw [List.map_append] at hparts
      rw [treesFrom, List.map_cons, Tree.walkAll, Tree.walk,
        List.cons_append, List.map_cons]
      refine List.Perm.cons _ ?_
      refine List.Perm.trans ?_ (ih (i + 1))
      simp only [Tree.walkAll_eq_flatMap, ← List.flatMap_append]
      exact hparts.flatMap_right _

/-- The trees of a workspace hold every file, as often as it was
added. -/
theorem walk_perm (w : Workspace) :
    w.walk.Perm (w.entries.map (·.file)) :=
  walkAll_treesFrom_perm 0 w.entries

/-- Leaving out the trees of one parent leaves those of any other one as
they are. -/
lemma filter_filter_place {p q : Option ℕ} (h : p ≠ q)
    (ts : List (Option ℕ × Tree)) :
    (ts.filter (·.1 != q)).filter (·.1 == p) = ts.filter (·.1 == p) := by
  rw [List.filter_filter]
  refine List.filter_congr fun x _ => ?_
  by_cases hx : x.1 = p
  · simp [hx, h]
  · simp [hx]

/-- A parent that lies before the entries is none of them. -/
lemma ne_some_of_forall_lt {p : Option ℕ} {i : ℕ} (hp : ∀ k ∈ p, k < i) :
    p ≠ some i := by
  rintro rfl
  exact absurd (hp i rfl) (Nat.lt_irrefl i)

/-- The trees whose parent lies before the entries are those of the
entries that name it. -/
lemma filter_treesFrom {p : Option ℕ} {i : ℕ} (es : List Entry)
    (hp : ∀ k ∈ p, k < i) :
    ((treesFrom i es).filter (·.1 == p)).map (·.2.file) =
      (es.filter (·.parent == p)).map (·.file) := by
  induction es generalizing i with
  | nil => rfl
  | cons e es ih =>
      have hlater := filter_filter_place (ne_some_of_forall_lt hp)
        (treesFrom (i + 1) es)
      have hrest := ih (i := i + 1) fun k hk => Nat.lt_succ_of_lt (hp k hk)
      rw [treesFrom]
      by_cases he : e.parent = p
      · simp [he, hlater, hrest]
      · simp [he, hlater, hrest]

/-- What stands right below each of the entries from place `i` on: the
later entries that name it. -/
def familiesFrom (i : ℕ) : List Entry → List (SourceFile × List SourceFile)
  | [] => []
  | e :: es =>
    (e.file, (es.filter (·.parent == some i)).map (·.file)) ::
      familiesFrom (i + 1) es

/-- The trees within the trees of some entries, each with the files right
below it, are one for each entry. -/
lemma family_treesFrom_perm (i : ℕ) (es : List Entry) :
    ((Tree.subtreesAll ((treesFrom i es).map (·.2))).map Tree.family).Perm
      (familiesFrom i es) := by
  induction es generalizing i with
  | nil => simp [treesFrom, Tree.subtreesAll, familiesFrom]
  | cons e es ih =>
      have hparts := (filter_place_perm (some i)
        (treesFrom (i + 1) es)).map (·.2)
      rw [List.map_append] at hparts
      have hsubs := filter_treesFrom (p := some i) (i := i + 1) es
        (by simp)
      rw [treesFrom, List.map_cons, Tree.subtreesAll, Tree.subtrees,
        List.cons_append, List.map_cons, familiesFrom, Tree.family,
        Tree.file_node, Tree.subs_node, List.map_map, ← hsubs]
      refine List.Perm.cons _ ?_
      refine List.Perm.trans ?_ (ih (i + 1))
      simp only [Tree.subtreesAll_eq_flatMap, ← List.flatMap_append]
      exact (hparts.flatMap_right _).map _

/-! ### Links -/

/-- Every entry has as its parent the first of the entries before it that
can hold it. -/
def Linked (es : List Entry) : Prop :=
  ∀ j (hj : j < es.length),
    es[j].parent = findParent? (es.take j) es[j].file

/-- One more entry that is linked to those before it. -/
lemma Linked.concat {es : List Entry} (h : Linked es) (f : SourceFile) :
    Linked (es ++ [⟨f, findParent? es f⟩]) := by
  intro j hj
  rw [List.length_append, List.length_singleton] at hj
  rcases Nat.lt_succ_iff_lt_or_eq.mp hj with hj' | rfl
  · rw [List.getElem_append_left hj', List.take_append_of_le_length (by omega)]
    exact h j hj'
  · simp

/-- Adding files keeps the entries linked. -/
lemma linked_addAll {w : Workspace} (h : Linked w.entries)
    (fs : List SourceFile) : Linked (w.addAll fs).entries := by
  induction fs generalizing w with
  | nil => exact h
  | cons f fs ih => exact ih (h.concat f)

/-- The entries of a workspace that files are added to are the files, in
the order in which they are added. -/
lemma map_file_addAll (w : Workspace) (fs : List SourceFile) :
    (w.addAll fs).entries.map (·.file) = w.entries.map (·.file) ++ fs := by
  induction fs generalizing w with
  | nil => simp [addAll]
  | cons f fs ih =>
      rw [addAll, List.foldl_cons, ← addAll, ih]
      simp [add]

/-- Adding files leaves the folder as it is. -/
@[simp] lemma root_addAll (w : Workspace) (fs : List SourceFile) :
    (w.addAll fs).root = w.root := by
  induction fs generalizing w with
  | nil => rfl
  | cons f fs ih =>
      rw [addAll, List.foldl_cons, ← addAll, ih]
      rfl

/-- The parent of an entry is the first one that can hold it. -/
lemma Linked.parent_eq_some_iff {es : List Entry} (h : Linked es) {j : ℕ}
    (hj : j < es.length) {i : ℕ} :
    es[j].parent = some i ↔
      ∃ hi : i < j, es[i].file.holds es[j].file ∧
        ∀ k (hk : k < i), ¬ es[k].file.holds es[j].file := by
  rw [h j hj, findParent?, List.findIdx?_eq_some_iff_getElem]
  simp only [List.length_take, List.getElem_take]
  constructor
  · rintro ⟨hi, hholds, hfirst⟩
    exact ⟨by omega, hholds, hfirst⟩
  · rintro ⟨hi, hholds, hfirst⟩
    exact ⟨by omega, hholds, hfirst⟩

/-- An entry without a parent is one that no entry before it can hold. -/
lemma Linked.parent_eq_none_iff {es : List Entry} (h : Linked es) {j : ℕ}
    (hj : j < es.length) :
    es[j].parent = none ↔
      ∀ i (hi : i < j), ¬ es[i].file.holds es[j].file := by
  rw [h j hj, findParent?, List.findIdx?_eq_none_iff]
  constructor
  · intro hnone i hi
    have hmem : es[i] ∈ es.take j :=
      List.mem_take_iff_getElem.mpr ⟨i, by omega, rfl⟩
    simpa using hnone es[i] hmem
  · intro hnone e he
    obtain ⟨i, hi, rfl⟩ := List.mem_take_iff_getElem.mp he
    simpa using hnone i (by omega)

/-- The trees that are left over name a parent that lies before the
entries, as long as every entry names one that lies before itself. -/
lemma lt_of_mem_treesFrom {i : ℕ} {es : List Entry}
    (h : ∀ j (hj : j < es.length), ∀ k ∈ es[j].parent, k < i + j)
    {x : Option ℕ × Tree} (hx : x ∈ treesFrom i es) : ∀ k ∈ x.1, k < i := by
  induction es generalizing i with
  | nil => simp [treesFrom] at hx
  | cons e es ih =>
      intro k hk
      rw [treesFrom, List.mem_cons, List.mem_filter] at hx
      rcases hx with rfl | ⟨hx, hne⟩
      · simpa using h 0 (by simp) k hk
      · have hlt := ih (i := i + 1) (fun j hj k hk => by
          have := h (j + 1) (by simpa using hj) k (by simpa using hk)
          omega) hx k hk
        have : k ≠ i := by
          rintro rfl
          simp [Option.mem_def.mp hk] at hne
        omega

/-- No tree is left over: those of all entries have no parent. -/
lemma filter_treesFrom_zero {es : List Entry} (h : Linked es) :
    (treesFrom 0 es).filter (·.1 == none) = treesFrom 0 es := by
  refine List.filter_eq_self.mpr fun x hx => ?_
  have hlt := lt_of_mem_treesFrom (i := 0) (fun j hj k hk => by
    obtain ⟨hk', -⟩ := (h.parent_eq_some_iff hj).mp hk
    omega) hx
  cases hx1 : x.1 with
  | none => rfl
  | some k => exact absurd (hlt k hx1) (Nat.not_lt_zero k)

/-- The files at the top are those without a parent, in the order in
which they came. -/
theorem map_file_forest {w : Workspace} (h : Linked w.entries) :
    w.forest.map Tree.file =
      (w.entries.filter (·.parent == none)).map (·.file) := by
  rw [← filter_treesFrom (p := none) (i := 0) w.entries (by simp),
    filter_treesFrom_zero h, forest, List.map_map]
  rfl

/-- The files that have the entry at a place as their parent, in the
order in which they came. -/
def filesUnder (es : List Entry) (i : ℕ) : List SourceFile :=
  (es.filter (·.parent == some i)).map (·.file)

/-- What stands right below the entries from place `i` on, where the
entries before have parents that lie before themselves. -/
lemma familiesFrom_eq (before es : List Entry)
    (h : ∀ j (hj : j < (before ++ es).length),
      ∀ k ∈ (before ++ es)[j].parent, k < j) :
    familiesFrom before.length es =
      (es.zipIdx before.length).map fun x =>
        (x.1.file, filesUnder (before ++ es) x.2) := by
  induction es generalizing before with
  | nil => rfl
  | cons e es ih =>
      have hassoc : before ++ e :: es = (before ++ [e]) ++ es := by simp
      have hrest := ih (before ++ [e]) (by rwa [← hassoc])
      rw [List.length_append, List.length_singleton] at hrest
      rw [familiesFrom, List.zipIdx_cons, List.map_cons, hrest, ← hassoc]
      congr 2
      -- no entry up to this one names it as its parent
      have hnone : (before ++ [e]).filter (·.parent == some before.length)
          = [] := by
        rw [List.filter_eq_nil_iff]
        intro x hx hpar
        obtain ⟨j, hj, rfl⟩ := List.mem_iff_getElem.mp hx
        have hj' : j < (before ++ e :: es).length := by
          simp at hj ⊢
          omega
        have := h j hj' before.length (by
          have hget : (before ++ e :: es)[j] = (before ++ [e])[j] := by
            simp only [hassoc]
            exact List.getElem_append_left hj
          rw [hget]
          simpa using hpar)
        simp at hj
        omega
      rw [filesUnder, hassoc, List.filter_append, hnone, List.nil_append]

/-- Below a file stand the files that have it as their parent, in the
order in which they came: the trees within the trees of a workspace are
one for each entry. -/
theorem subtrees_perm {w : Workspace} (h : Linked w.entries) :
    ((Tree.subtreesAll w.forest).map Tree.family).Perm
      (w.entries.zipIdx.map fun x => (x.1.file, filesUnder w.entries x.2)) := by
  have hlt : ∀ j (hj : j < w.entries.length),
      ∀ k ∈ w.entries[j].parent, k < j := fun j hj k hk =>
    ((h.parent_eq_some_iff hj).mp hk).1
  have hfam := familiesFrom_eq [] w.entries (by simpa)
  rw [List.length_nil, List.nil_append] at hfam
  rw [← hfam]
  exact family_treesFrom_perm 0 w.entries

end ApiBook.Workspace
