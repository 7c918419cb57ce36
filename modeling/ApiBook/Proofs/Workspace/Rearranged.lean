/-
What a workspace owes to the order of its definitions.

* `byOffset_perm`, `byOffset_eq_of_perm`: definitions in another order are
  put in the same order by their offsets, as far as these are different;
* `Tree.Rearranged`: trees with the same files at the same places, which
  differ only in the order of the definitions in a file;
* `build_perm`: **the order of the definitions does not matter** but for
  those that begin at the same offset of a file.
-/
import ApiBook.Proofs.Workspace.Hierarchy

namespace ApiBook

open Record (Definition)

/-! ### Files and trees -/

/-- Files that differ only in the order of their definitions. -/
structure SourceFile.Rearranged (f g : SourceFile) : Prop where
  path : f.path = g.path
  depth : f.depth = g.depth
  definitions : f.definitions.Perm g.definitions

namespace Workspace

/-- Trees of the same shape whose files differ only in the order of their
definitions. -/
inductive Tree.Rearranged : Tree → Tree → Prop
  | node {f g : SourceFile} {ts us : List Tree} (hfile : f.Rearranged g)
      (hsubs : List.Forall₂ Rearranged ts us) :
      Rearranged (.node f ts) (.node g us)

/-- Entries with the same parent whose files differ only in the order of
their definitions. -/
def Entry.Rearranged (e e' : Entry) : Prop :=
  e.parent = e'.parent ∧ e.file.Rearranged e'.file

/-- The outline of an entry is all but the definitions of its file. -/
lemma Entry.outline_eq_iff {e e' : Entry} :
    e.outline = e'.outline ↔ e.parent = e'.parent ∧
      e.file.path = e'.file.path ∧ e.file.depth = e'.file.depth := by
  rw [outline, outline, Entry.mk.injEq, SourceFile.outline,
    SourceFile.outline, SourceFile.mk.injEq]
  constructor
  · rintro ⟨⟨hpath, hdepth, -⟩, hparent⟩
    exact ⟨hparent, hpath, hdepth⟩
  · rintro ⟨hparent, hpath, hdepth⟩
    exact ⟨⟨hpath, hdepth, rfl⟩, hparent⟩

/-- Entries with the same outline and the same definitions are the same. -/
lemma Entry.eq_of_outline_eq {e e' : Entry} (h : e.outline = e'.outline)
    (hdefs : e.file.definitions = e'.file.definitions) : e = e' := by
  obtain ⟨hparent, hpath, hdepth⟩ := outline_eq_iff.mp h
  obtain ⟨⟨path, depth, definitions⟩, parent⟩ := e
  obtain ⟨⟨path', depth', definitions'⟩, parent'⟩ := e'
  dsimp only at hparent hpath hdepth hdefs
  rw [hparent, hpath, hdepth, hdefs]

/-- The trees of rearranged entries are rearranged, and have the same
parents. -/
lemma rearranged_treesFrom {es es' : List Entry}
    (h : List.Forall₂ Entry.Rearranged es es') (i : ℕ) :
    List.Forall₂ (fun x y => x.1 = y.1 ∧ Tree.Rearranged x.2 y.2)
      (treesFrom i es) (treesFrom i es') := by
  induction h generalizing i with
  | nil => exact .nil
  | @cons e e' es es' he _ ih =>
      obtain ⟨hparent, hfile⟩ := he
      have hparts : ∀ p : Option ℕ → Bool,
          List.Forall₂ (fun x y => x.1 = y.1 ∧ Tree.Rearranged x.2 y.2)
            ((treesFrom (i + 1) es).filter (p ·.1))
            ((treesFrom (i + 1) es').filter (p ·.1)) := fun p =>
        List.rel_filter (fun x y hxy => by simp only [hxy.1]) (ih (i + 1))
      rw [treesFrom, treesFrom]
      refine .cons ⟨hparent, .node hfile ?_⟩ (hparts (· != some i))
      rw [List.forall₂_map_left_iff, List.forall₂_map_right_iff]
      exact (hparts (· == some i)).imp fun x y hxy => hxy.2

/-- The trees of workspaces with rearranged entries are rearranged. -/
lemma rearranged_forest {w w' : Workspace}
    (h : List.Forall₂ Entry.Rearranged w.entries w'.entries) :
    List.Forall₂ Tree.Rearranged w.forest w'.forest := by
  rw [forest, forest, List.forall₂_map_left_iff, List.forall₂_map_right_iff]
  exact (rearranged_treesFrom h 0).imp fun x y hxy => hxy.2

/-! ### Definitions by their offsets -/

/-- Definitions that come in another order are the same ones by their
offsets. -/
lemma byOffset_perm {es es' : List (ℕ × Definition)} (h : es.Perm es') :
    (SourceFile.byOffset es).Perm (SourceFile.byOffset es') :=
  ((List.mergeSort_perm es _).trans
    (h.trans (List.mergeSort_perm es' _).symm)).map _

/-- Definitions with different offsets that come in another order are put
in the same order. -/
lemma byOffset_eq_of_perm {es es' : List (ℕ × Definition)}
    (h : es.Perm es') (hes : (es.map Prod.fst).Nodup) :
    SourceFile.byOffset es = SourceFile.byOffset es' := by
  have hes' : (es'.map Prod.fst).Nodup := (h.map _).nodup_iff.mp hes
  have hsort := Order.pairwise_lt_of_nodup Prod.fst hes
  have hsort' := Order.pairwise_lt_of_nodup Prod.fst hes'
  have hperm := (List.mergeSort_perm es fun a b => a.1 ≤ b.1).trans
    (h.trans (List.mergeSort_perm es' fun a b => a.1 ≤ b.1).symm)
  rw [SourceFile.byOffset, SourceFile.byOffset,
    hperm.eq_of_pairwise (fun a b _ _ hab hba => absurd hab hba.asymm)
      hsort hsort']

/-- The definitions with a place in a file, each with the offset of the
first one. -/
def placedIn (target : Path) (ds : List Definition) :
    List (ℕ × Definition) :=
  ds.filterMap fun d => (firstStart? target d).map fun i => (i, d)

/-- The offsets of the definitions with a place in a file. -/
lemma map_fst_placedIn (target : Path) (ds : List Definition) :
    (placedIn target ds).map Prod.fst = ds.filterMap (firstStart? target) := by
  rw [placedIn, List.map_filterMap]
  refine List.filterMap_congr fun d _ => ?_
  rw [Option.map_map]
  exact Option.map_id'

/-! ### Two orders of the same definitions -/

variable {current folder : Path} {ds ds' : List Definition}
  {w w' : Workspace}

/-- The same definitions have places in the same files. -/
lemma mem_map_path_walk_of_perm (hds : ds.Perm ds')
    (h : build current folder ds = .ok w)
    (h' : build current folder ds' = .ok w') (q : Path) :
    q ∈ w.walk.map (·.path) ↔ q ∈ w'.walk.map (·.path) := by
  rw [mem_map_path_walk h, mem_map_path_walk h', root_of_build h,
    root_of_build h']
  simp only [hds.mem_iff]

/-- The entries of the same definitions go in pairs with the same parent
and path, and the files of a pair hold the definitions with a place in
them, taken in the order in which these were given. -/
lemma forall₂_entries_of_perm (hds : ds.Perm ds')
    (h : build current folder ds = .ok w)
    (h' : build current folder ds' = .ok w') :
    List.Forall₂ (fun e e' => e.outline = e'.outline ∧
        e.file ∈ w.walk ∧
        e.file.definitions =
          SourceFile.byOffset (placedIn (w.root.append e.file.path) ds) ∧
        e'.file.definitions =
          SourceFile.byOffset (placedIn (w.root.append e.file.path) ds'))
      w.entries w'.entries := by
  have houtline := outline_entries_eq h h' (mem_map_path_walk_of_perm hds h h')
  have hroot : w.root = w'.root :=
    (root_of_build h).trans (root_of_build h').symm
  have hmem : ∀ {v : Workspace}, ∀ e ∈ v.entries, e.file ∈ v.walk :=
    fun {v} e he => (walk_perm v).mem_iff.mpr (List.mem_map_of_mem he)
  rw [← List.forall₂_eq_eq_eq, List.forall₂_map_left_iff,
    List.forall₂_map_right_iff, List.forall₂_iff_get] at houtline
  obtain ⟨hlength, hget⟩ := houtline
  refine List.forall₂_iff_get.mpr ⟨hlength, fun i hi hi' => ?_⟩
  obtain ⟨-, hpath, -⟩ := Entry.outline_eq_iff.mp (hget i hi hi')
  have hfile := hmem _ (List.get_mem w.entries ⟨i, hi⟩)
  have hfile' := hmem _ (List.get_mem w'.entries ⟨i, hi'⟩)
  have hdefs := definitions_of_mem_walk h hfile
  have hdefs' := definitions_of_mem_walk h' hfile'
  rw [← hroot, ← hpath] at hdefs'
  exact ⟨hget i hi hi', hfile, hdefs, hdefs'⟩

/-- **The order of the definitions does not matter.** Definitions that
come in two orders fill a workspace in both of them or in none. If they
do, its trees are the same but for the order of the definitions in a
file, and the workspaces are the same if no two definitions have their
first place in a file at the same offset. -/
theorem build_perm (current folder : Path) {ds ds' : List Definition}
    (hds : ds.Perm ds') :
    ((∃ e, build current folder ds = .error e) ↔
      ∃ e, build current folder ds' = .error e) ∧
    ∀ w w', build current folder ds = .ok w →
      build current folder ds' = .ok w' →
      w.root = w'.root ∧
      List.Forall₂ Tree.Rearranged w.forest w'.forest ∧
      ((∀ f ∈ w.walk,
          (ds.filterMap (firstStart? (w.root.append f.path))).Nodup) →
        w = w') := by
  refine ⟨?_, fun w w' h h' => ?_⟩
  · rw [exists_error_iff, exists_error_iff]
    simp only [hds.mem_iff]
  have hroot : w.root = w'.root :=
    (root_of_build h).trans (root_of_build h').symm
  have hentries := forall₂_entries_of_perm hds h h'
  have hplaced : ∀ target, (placedIn target ds).Perm (placedIn target ds') :=
    fun target => hds.filterMap _
  refine ⟨hroot, rearranged_forest (hentries.imp ?_), fun hdistinct => ?_⟩
  · rintro e e' ⟨hout, -, hdefs, hdefs'⟩
    obtain ⟨hparent, hpath, hdepth⟩ := Entry.outline_eq_iff.mp hout
    refine ⟨hparent, hpath, hdepth, ?_⟩
    rw [hdefs, hdefs']
    exact byOffset_perm (hplaced _)
  · have heq : w.entries = w'.entries := by
      rw [← List.forall₂_eq_eq_eq]
      refine hentries.imp ?_
      rintro e e' ⟨hout, hmem, hdefs, hdefs'⟩
      have hnodup := hdistinct _ hmem
      rw [← map_fst_placedIn] at hnodup
      refine Entry.eq_of_outline_eq hout ?_
      rw [hdefs, hdefs', byOffset_eq_of_perm (hplaced _) hnodup]
    obtain ⟨root, entries⟩ := w
    obtain ⟨root', entries'⟩ := w'
    dsimp only at hroot heq
    rw [hroot, heq]

/-- The definitions of the library fill the same workspace when they come
in the opposite order: those that share a file begin at different
offsets. -/
theorem build_perm_sampleLibrary :
    sampleLibrary.reverse.Perm sampleLibrary ∧
      ∃ w, build .here (.ofText "/w/lib") sampleLibrary.reverse = .ok w ∧
        build .here (.ofText "/w/lib") sampleLibrary = .ok w := by
  have hperm : sampleLibrary.reverse.Perm sampleLibrary :=
    List.reverse_perm _
  have hall : ∀ d ∈ sampleLibrary.reverse, Resolvable d := fun d hd =>
    resolvable_sampleLibrary d (List.mem_reverse.mp hd)
  obtain ⟨w, hw⟩ := exists_build .here (.ofText "/w/lib") hall
  obtain ⟨w', hw'⟩ := exists_build .here (.ofText "/w/lib")
    resolvable_sampleLibrary
  obtain ⟨-, hboth⟩ := build_perm .here (.ofText "/w/lib") hperm
  obtain ⟨-, -, heq⟩ := hboth w w' hw hw'
  have hdistinct : ∀ d ∈ sampleLibrary.reverse, ∀ p ∈ d.defines,
      ∀ q ∈ (Location.toPath p.file).toOption,
        (sampleLibrary.reverse.filterMap (firstStart? q)).Nodup := by
    decide +kernel
  obtain rfl := heq fun f hf => by
    obtain ⟨-, -, d, hd, p, hp, hpath⟩ :=
      (mem_map_path_walk hw).mp (List.mem_map_of_mem hf)
    exact hdistinct d hd p hp _ (by rw [hpath]; rfl)
  exact ⟨hperm, w, hw, hw'⟩

end Workspace

end ApiBook
