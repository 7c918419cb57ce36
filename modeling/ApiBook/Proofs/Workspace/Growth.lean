/-
How the trees of a workspace grow as files come in.

* `Call`, `run`: definitions to load and files to add, and what a
  workspace is after some of them; `Call.files`: the files that a call
  brings in;
* `SourceFile.LiesUnder`: a file lies one level below another one, in a
  folder that bears its name;
* `Arranged`: trees that hold files by a list of parents, each file under
  the first one that it lies under;
* `arranged_of_linked`: linked entries are arranged by their parents;
* `run_arranged`: **the trees only grow**: whatever is loaded and added,
  the files stay where they are, and each new one comes last under its
  parent or at the top.
-/
import ApiBook.Proofs.Workspace.Grouping
import Mathlib.Logic.Function.Basic

namespace ApiBook

open Record (Definition)

/-! ### Files under files -/

/-- A file lies one level below another one, in a folder that bears its
name. -/
def SourceFile.LiesUnder (f g : SourceFile) : Prop :=
  f.depth = g.depth + 1 ∧ f.directory? = some g.stem

/-- A file may be the parent of those that lie under it. -/
lemma SourceFile.holds_iff_liesUnder {f g : SourceFile} :
    g.holds f ↔ f.LiesUnder g := by
  rw [holds, LiesUnder, Bool.and_eq_true, decide_eq_true_iff,
    decide_eq_true_iff]
  exact and_congr_left fun _ => by omega

namespace Workspace

/-! ### Calls -/

/-- What a workspace can be asked for: to load definitions, or to add a
file with definitions and their offsets. -/
inductive Call where
  | load (ds : List Definition)
  | add (path : Path) (entries : List (ℕ × Definition))

/-- The files that a call brings into the workspace of a folder, in order;
definitions that cannot be loaded bring none. -/
def Call.files (root : Path) : Call → List SourceFile
  | load ds =>
    match resolve ds with
    | .ok rs => filesOf root rs
    | .error _ => []
  | add path entries => [.ofEntries path entries]

/-- A workspace after a call; where definitions cannot be loaded it stays
as it is. -/
def step (w : Workspace) : Call → Workspace
  | .load ds =>
    match w.load ds with
    | .ok w' => w'
    | .error _ => w
  | .add path entries => w.add (.ofEntries path entries)

/-- The workspace of a folder after some calls. -/
def run (current folder : Path) (calls : List Call) : Workspace :=
  calls.foldl step (empty current folder)

/-- The files that calls bring into the workspace of a folder, in
order. -/
def inserted (current folder : Path) (calls : List Call) :
    List SourceFile :=
  calls.flatMap (Call.files (Path.resolvedIn current folder))

/-- A call adds its files one after the other. -/
lemma step_eq_addAll (w : Workspace) (c : Call) :
    w.step c = w.addAll (c.files w.root) := by
  cases c with
  | add path entries => rfl
  | load ds =>
      rw [step, Call.files, load]
      cases resolve ds with
      | error e => rfl
      | ok rs => rfl

/-- Files that are added after others. -/
lemma addAll_append (w : Workspace) (fs gs : List SourceFile) :
    w.addAll (fs ++ gs) = (w.addAll fs).addAll gs :=
  List.foldl_append

/-- Calls add their files one after the other. -/
lemma foldl_step_eq_addAll (w : Workspace) (calls : List Call) :
    calls.foldl step w = w.addAll (calls.flatMap (Call.files w.root)) := by
  induction calls generalizing w with
  | nil => rfl
  | cons c calls ih =>
      rw [List.foldl_cons, ih, step_eq_addAll, root_addAll,
        List.flatMap_cons, addAll_append]

/-- A workspace after some calls holds the files they brought in. -/
lemma run_eq_addAll (current folder : Path) (calls : List Call) :
    run current folder calls =
      (empty current folder).addAll (inserted current folder calls) :=
  foldl_step_eq_addAll _ _

/-- The entries of a workspace stay when files are added. -/
lemma exists_entries_addAll (w : Workspace) (fs : List SourceFile) :
    ∃ es, (w.addAll fs).entries = w.entries ++ es := by
  induction fs generalizing w with
  | nil => exact ⟨[], (List.append_nil _).symm⟩
  | cons f fs ih =>
      obtain ⟨es, hes⟩ := ih (w.add f)
      exact ⟨⟨f, findParent? w.entries f⟩ :: es,
        hes.trans (List.append_assoc _ _ _)⟩

/-! ### Trees by a list of parents -/

/-- Files, one parent for each of them, and trees in which every file
stands where its parent says. The files are numbered in the order in
which they came, and a parent is the number of a file, or none at the
top. -/
structure Arranged (fs : List SourceFile) (parents : List (Option ℕ))
    (ts : List Tree) : Prop where
  length_eq : parents.length = fs.length
  /-- At the top stand the files without a parent, and below each file
  those that have it as their parent, in the order in which they came. -/
  trees : ∃ tree : ℕ → Tree, ts = (parents.idxsOf none).map tree ∧
    ∀ i (hi : i < fs.length),
      tree i = .node fs[i] ((parents.idxsOf (some i)).map tree)
  /-- The parent of a file came before it, and is the first of all files
  that it lies under. -/
  parent : ∀ j (hj : j < fs.length), ∀ i, parents[j] = some i →
    ∃ hi : i < j, fs[j].LiesUnder fs[i] ∧
      ∀ k (hk : k < fs.length), fs[j].LiesUnder fs[k] → i ≤ k
  /-- A file without a parent lies under none of those before it. -/
  top : ∀ j (hj : j < fs.length), parents[j] = none →
    ∀ i (hi : i < j), ¬ fs[j].LiesUnder fs[i]

/-- Entries that name parents before themselves have trees by these
parents: those left over go to a parent before the entries. -/
lemma exists_tree (i : ℕ) (es : List Entry)
    (h : ∀ j (hj : j < es.length), ∀ k ∈ es[j].parent, k < i + j) :
    ∃ tree : ℕ → Tree,
      (∀ p : Option ℕ, (∀ k ∈ p, k < i) →
        ((treesFrom i es).filter (·.1 == p)).map (·.2) =
          (es.findIdxs (·.parent == p) i).map tree) ∧
      ∀ j (hj : j < es.length), tree (i + j) =
        .node es[j].file
          ((es.findIdxs (·.parent == some (i + j)) i).map tree) := by
  induction es generalizing i with
  | nil => exact ⟨fun _ => .node ⟨.here, 0, []⟩ [], fun _ _ => rfl,
      fun j hj => absurd hj (Nat.not_lt_zero j)⟩
  | cons e es ih =>
      have he : ∀ k ∈ e.parent, k < i := fun k hk => h 0 (by simp) k hk
      obtain ⟨tree, hrest, hnode⟩ := ih (i + 1) fun j hj k hk => by
        have := h (j + 1) (by simpa using hj) k (by simpa using hk)
        omega
      -- the later trees stay, and the first entry takes in its own
      let first := Tree.node e.file
        ((es.findIdxs (·.parent == some i) (i + 1)).map tree)
      have hlater : ∀ q : Entry → Bool,
          (es.findIdxs q (i + 1)).map (Function.update tree i first) =
            (es.findIdxs q (i + 1)).map tree := by
        refine fun q => List.map_congr_left fun k hk => ?_
        have := List.ge_of_mem_findIdxs k hk
        exact Function.update_of_ne (by omega) _ _
      have hskip : ∀ k, i ≤ k →
          (e :: es).findIdxs (·.parent == some k) i =
            es.findIdxs (·.parent == some k) (i + 1) := by
        intro k hk
        have hne : e.parent ≠ some k := fun heq => by
          have := he k heq
          omega
        rw [List.findIdxs_cons, if_neg (by simpa using hne)]
      refine ⟨Function.update tree i first, fun p hp => ?_, fun j hj => ?_⟩
      · have hlt : ∀ k ∈ p, k < i + 1 := fun k hk =>
          Nat.lt_succ_of_lt (hp k hk)
        have hown := hrest (some i) (by simp)
        have hothers := filter_filter_place (ne_some_of_forall_lt hp)
          (treesFrom (i + 1) es)
        rw [treesFrom, List.findIdxs_cons, hown]
        by_cases hep : e.parent = p
        · simp [hep, hothers, hrest p hlt, hlater, first]
        · simp [hep, hothers, hrest p hlt, hlater]
      · cases j with
        | zero =>
            rw [Nat.add_zero, hskip i (Nat.le_refl i), hlater,
              Function.update_self]
            rfl
        | succ j =>
            have hj' : j < es.length := by simpa using hj
            have hnode' := hnode j hj'
            rw [show i + 1 + j = i + (j + 1) by omega] at hnode'
            rw [hskip _ (by omega), hlater,
              Function.update_of_ne (by omega), hnode',
              List.getElem_cons_succ]

/-- Linked entries are arranged by their parents. -/
theorem arranged_of_linked {w : Workspace} (h : Linked w.entries) :
    Arranged (w.entries.map (·.file)) (w.entries.map (·.parent))
      w.forest where
  length_eq := by simp
  trees := by
    obtain ⟨tree, htop, hnode⟩ := exists_tree 0 w.entries
      fun j hj k hk => by
        obtain ⟨hk', -⟩ := (h.parent_eq_some_iff hj).mp hk
        omega
    refine ⟨tree, ?_, fun i hi => ?_⟩
    · rw [forest, ← filter_treesFrom_zero h, htop none (by simp),
        List.idxsOf_map]
    · have hi' : i < w.entries.length := by simpa using hi
      have hnode' := hnode i hi'
      rw [Nat.zero_add] at hnode'
      rw [hnode', List.getElem_map, List.idxsOf_map]
  parent := by
    intro j hj i hparent
    rw [List.length_map] at hj
    rw [List.getElem_map] at hparent
    obtain ⟨hi, hholds, hfirst⟩ := (h.parent_eq_some_iff hj).mp hparent
    refine ⟨hi, ?_, fun k hk hunder => Nat.le_of_not_lt fun hki => ?_⟩
    · rw [List.getElem_map, List.getElem_map]
      exact SourceFile.holds_iff_liesUnder.mp hholds
    · rw [List.getElem_map, List.getElem_map] at hunder
      exact hfirst k hki (SourceFile.holds_iff_liesUnder.mpr hunder)
  top := by
    intro j hj hparent i hi hunder
    rw [List.length_map] at hj
    rw [List.getElem_map] at hparent
    rw [List.getElem_map, List.getElem_map] at hunder
    exact (h.parent_eq_none_iff hj).mp hparent i hi
      (SourceFile.holds_iff_liesUnder.mpr hunder)

/-! ### Runs -/

/-- The entries of a workspace after some calls are linked. -/
lemma linked_run (current folder : Path) (calls : List Call) :
    Linked (run current folder calls).entries := by
  rw [run_eq_addAll]
  exact linked_addAll (fun j hj => absurd hj (by simp [empty])) _

/-- The entries of a workspace after some calls are the files that were
brought in, in order. -/
lemma map_file_run (current folder : Path) (calls : List Call) :
    (run current folder calls).entries.map (·.file) =
      inserted current folder calls := by
  rw [run_eq_addAll, map_file_addAll, empty, List.map_nil, List.nil_append]

/-- **The trees only grow.** Whatever is loaded into a workspace and added
to it, its trees hold the files that came in, each as often as it came;
every file stands under the first of all files that it lies under, if that
was there before, and at the top if there was none. A call more leaves
the parents of these files as they are, and puts its own files last, under
one file each or at the top. -/
theorem run_arranged (current folder : Path) (calls : List Call) :
    (run current folder calls).walk.Perm (inserted current folder calls) ∧
    ∃ parents, Arranged (inserted current folder calls) parents
        (run current folder calls).forest ∧
      ∀ c, ∃ added : List (Option ℕ),
        added.length =
          (c.files (Path.resolvedIn current folder)).length ∧
        Arranged
          (inserted current folder calls ++
            c.files (Path.resolvedIn current folder))
          (parents ++ added) (run current folder (calls ++ [c])).forest ∧
        ∀ p, (parents ++ added).idxsOf p =
          parents.idxsOf p ++ added.idxsOf p parents.length := by
  have harranged : ∀ calls, Arranged (inserted current folder calls)
      ((run current folder calls).entries.map (·.parent))
      (run current folder calls).forest := fun calls => by
    rw [← map_file_run]
    exact arranged_of_linked (linked_run current folder calls)
  refine ⟨?_, _, harranged calls, fun c => ?_⟩
  · rw [← map_file_run]
    exact walk_perm _
  · have hnext := harranged (calls ++ [c])
    have hfiles : inserted current folder (calls ++ [c]) =
        inserted current folder calls ++
          c.files (Path.resolvedIn current folder) := by
      rw [inserted, List.flatMap_append, List.flatMap_singleton, inserted]
    -- the new entries come after the old ones
    obtain ⟨es, hes⟩ := exists_entries_addAll (run current folder calls)
      (c.files (run current folder calls).root)
    rw [← step_eq_addAll] at hes
    have hrun : (run current folder (calls ++ [c])).entries =
        (run current folder calls).entries ++ es := by
      rw [run, List.foldl_append]
      exact hes
    rw [hfiles, hrun, List.map_append] at hnext
    refine ⟨es.map (·.parent), ?_, hnext, fun p => ?_⟩
    · have hlength := hnext.length_eq
      have hbefore := (harranged calls).length_eq
      simp only [List.length_append] at hlength
      omega
    · rw [List.idxsOf_append, Nat.zero_add]

end Workspace

end ApiBook
