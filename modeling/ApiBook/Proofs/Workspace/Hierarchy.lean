/-
The hierarchy of a workspace.

* `Ordered`: entries that are linked and strictly increasing in rank, as
  those of a filled workspace are;
* `StandsUnder`: one file stands right below another one;
  `standsUnder_iff`: the file above is the least of all files that can
  hold it;
* `mem_top_iff`: at the top are the files that no file can hold;
* `outline_forest_eq`: the paths of the files fix the trees;
* `hierarchy_of_build`: **the hierarchy law**, of every filled workspace.
-/
import ApiBook.Proofs.Workspace.Contents
import ApiBook.Proofs.Workspace.Outline
import ApiBook.Proofs.Workspace.Rank

namespace ApiBook.Workspace

open Record (Definition)

/-! ### Ordered entries -/

/-- Entries that are linked, and strictly increasing in rank. -/
structure Ordered (es : List Entry) : Prop where
  linked : Linked es
  sorted : (es.map (·.file)).Pairwise fun f g => f.rank < g.rank

namespace Ordered

variable {es : List Entry}

/-- Files are ranked as they are ordered. -/
lemma rank_lt (h : Ordered es) {i j : ℕ} (hij : i < j)
    (hj : j < es.length) : es[i].file.rank < es[j].file.rank :=
  List.pairwise_iff_getElem.mp (List.pairwise_map.mp h.sorted) i j _ hj hij

/-- A file that ranks before another one stands before it. -/
lemma lt_of_rank_lt (h : Ordered es) {i j : ℕ} (hi : i < es.length)
    (hj : j < es.length) (hlt : es[i].file.rank < es[j].file.rank) :
    i < j := by
  by_contra hge
  rcases (Nat.le_of_not_lt hge).lt_or_eq with hji | rfl
  · exact lt_asymm hlt (h.rank_lt hji hi)
  · exact lt_irrefl _ hlt

/-- A file of a rank stands at one place only. -/
lemma eq_of_rank_eq (h : Ordered es) {i j : ℕ} (hi : i < es.length)
    (hj : j < es.length) (heq : es[i].file.rank = es[j].file.rank) :
    i = j := by
  rcases Nat.lt_trichotomy i j with hij | hij | hij
  · exact absurd heq (h.rank_lt hij hj).ne
  · exact hij
  · exact absurd heq (h.rank_lt hij hi).ne'

/-- The parent of an entry can hold it, and ranks first among all files
that can: no later file can, so that none found yet is none at all. -/
lemma parent_spec (h : Ordered es) {i j : ℕ} (hj : j < es.length)
    (hpar : es[j].parent = some i) :
    ∃ hi : i < es.length, es[i].file.holds es[j].file ∧
      ∀ k (hk : k < es.length), es[k].file.holds es[j].file →
        es[i].file.siblingRank ≤ es[k].file.siblingRank := by
  obtain ⟨hij, hholds, hfirst⟩ := (h.linked.parent_eq_some_iff hj).mp hpar
  refine ⟨hij.trans hj, hholds, fun k hk hkholds => ?_⟩
  have hik : i ≤ k := Nat.le_of_not_lt fun hki => hfirst k hki hkholds
  have hdepth : es[i].file.depth = es[k].file.depth := by
    rw [(SourceFile.holds_iff.mp hholds).2.1,
      (SourceFile.holds_iff.mp hkholds).2.1]
  rw [← SourceFile.rank_le_iff_of_depth_eq hdepth]
  rcases hik.lt_or_eq with hik | rfl
  · exact (h.rank_lt hik hk).le
  · exact le_rfl

/-- An entry that some file can hold has a parent. -/
lemma exists_parent (h : Ordered es) {j k : ℕ} (hj : j < es.length)
    (hk : k < es.length) (hholds : es[k].file.holds es[j].file) :
    ∃ i, es[j].parent = some i := by
  cases hpar : es[j].parent with
  | some i => exact ⟨i, rfl⟩
  | none =>
      have hkj := h.lt_of_rank_lt hk hj (SourceFile.rank_lt_of_holds hholds)
      exact absurd hholds ((h.linked.parent_eq_none_iff hj).mp hpar k hkj)

/-- In ordered trees no file stands twice. -/
lemma nodup_walk {w : Workspace} (h : Ordered w.entries) : w.walk.Nodup := by
  have hfiles : (w.entries.map (·.file)).Nodup :=
    h.sorted.imp fun {f g} hlt heq => hlt.ne (congrArg SourceFile.rank heq)
  exact (walk_perm w).nodup_iff.mpr hfiles

end Ordered

/-- The entries of a filled workspace are ordered. -/
lemma ordered_of_build {current folder : Path} {ds : List Definition}
    {w : Workspace} (h : build current folder ds = .ok w) :
    Ordered w.entries :=
  ⟨linked_of_build h, sorted_of_build h⟩

/-! ### Above and below -/

/-- One file stands right below another one. -/
def StandsUnder (w : Workspace) (f g : SourceFile) : Prop :=
  ∃ t ∈ Tree.subtreesAll w.forest, t.file = g ∧ f ∈ t.subs.map Tree.file

variable {w : Workspace}

/-- The files are those of the entries. -/
lemma mem_walk_iff {f : SourceFile} :
    f ∈ w.walk ↔ ∃ j, ∃ hj : j < w.entries.length, w.entries[j].file = f := by
  rw [(walk_perm w).mem_iff, List.mem_map]
  constructor
  · rintro ⟨e, he, rfl⟩
    obtain ⟨j, hj, rfl⟩ := List.mem_iff_getElem.mp he
    exact ⟨j, hj, rfl⟩
  · rintro ⟨j, hj, rfl⟩
    exact ⟨_, List.getElem_mem hj, rfl⟩

/-- The trees within the trees of a workspace are those of its
entries. -/
lemma mem_families_iff (h : Linked w.entries) {f : SourceFile}
    {fs : List SourceFile} :
    (∃ t ∈ Tree.subtreesAll w.forest, t.file = f ∧
        t.subs.map Tree.file = fs) ↔
      ∃ i, ∃ hi : i < w.entries.length, w.entries[i].file = f ∧
        filesUnder w.entries i = fs := by
  have hmem := (subtrees_perm h).mem_iff (a := (f, fs))
  rw [List.mem_map, List.mem_map] at hmem
  constructor
  · rintro ⟨t, ht, rfl, rfl⟩
    obtain ⟨⟨e, i⟩, hei, heq⟩ := hmem.mp ⟨t, ht, rfl⟩
    rw [List.mem_zipIdx_iff_getElem?] at hei
    obtain ⟨hi, hget⟩ := List.getElem?_eq_some_iff.mp hei
    rw [Prod.mk.injEq] at heq
    exact ⟨i, hi, (congrArg Entry.file hget).trans heq.1, heq.2⟩
  · rintro ⟨i, hi, rfl, rfl⟩
    obtain ⟨t, ht, heq⟩ := hmem.mpr ⟨(w.entries[i], i), by
      rw [List.mem_zipIdx_iff_getElem?]
      exact List.getElem?_eq_getElem hi, rfl⟩
    rw [Tree.family, Prod.mk.injEq] at heq
    exact ⟨t, ht, heq.1, heq.2⟩

/-- A file stands below another one if its entry has that of the other
one as its parent. -/
lemma standsUnder_iff_parent (h : Linked w.entries) {f g : SourceFile} :
    StandsUnder w f g ↔
      ∃ i j, ∃ hi : i < w.entries.length, ∃ hj : j < w.entries.length,
        w.entries[i].file = g ∧ w.entries[j].file = f ∧
          w.entries[j].parent = some i := by
  constructor
  · rintro ⟨t, ht, hg, hf⟩
    obtain ⟨i, hi, hg', hsubs⟩ := (mem_families_iff h).mp ⟨t, ht, hg, rfl⟩
    rw [← hsubs, filesUnder, List.mem_map] at hf
    obtain ⟨e, he, rfl⟩ := hf
    obtain ⟨he, hpar⟩ := List.mem_filter.mp he
    obtain ⟨j, hj, rfl⟩ := List.mem_iff_getElem.mp he
    exact ⟨i, j, hi, hj, hg', rfl, by simpa using hpar⟩
  · rintro ⟨i, j, hi, hj, rfl, rfl, hpar⟩
    obtain ⟨t, ht, hg, hsubs⟩ := (mem_families_iff h).mpr ⟨i, hi, rfl, rfl⟩
    refine ⟨t, ht, hg, ?_⟩
    rw [hsubs, filesUnder, List.mem_map]
    exact ⟨_, List.mem_filter.mpr ⟨List.getElem_mem hj, by simpa using hpar⟩,
      rfl⟩

/-- The file right above another one is the least of those that can hold
it. -/
lemma standsUnder_iff (h : Ordered w.entries) {f g : SourceFile} :
    StandsUnder w f g ↔
      f ∈ w.walk ∧ g ∈ w.walk ∧ g.holds f ∧
        ∀ g' ∈ w.walk, g'.holds f → g.siblingRank ≤ g'.siblingRank := by
  rw [standsUnder_iff_parent h.linked]
  constructor
  · rintro ⟨i, j, hi, hj, rfl, rfl, hpar⟩
    obtain ⟨_, hholds, hleast⟩ := h.parent_spec hj hpar
    refine ⟨mem_walk_iff.mpr ⟨j, hj, rfl⟩, mem_walk_iff.mpr ⟨i, hi, rfl⟩,
      hholds, fun g' hg' hholds' => ?_⟩
    obtain ⟨k, hk, rfl⟩ := mem_walk_iff.mp hg'
    exact hleast k hk hholds'
  · rintro ⟨hf, hg, hholds, hleast⟩
    obtain ⟨j, hj, rfl⟩ := mem_walk_iff.mp hf
    obtain ⟨k, hk, rfl⟩ := mem_walk_iff.mp hg
    obtain ⟨i, hpar⟩ := h.exists_parent hj hk hholds
    obtain ⟨hi, hiholds, hile⟩ := h.parent_spec hj hpar
    -- both are least among the files that can hold it, so they are one
    have hdepth : w.entries[i].file.depth = w.entries[k].file.depth := by
      rw [(SourceFile.holds_iff.mp hholds).2.1,
        (SourceFile.holds_iff.mp hiholds).2.1]
    have hrank : w.entries[i].file.rank = w.entries[k].file.rank := by
      refine le_antisymm ?_ ?_
      · exact (SourceFile.rank_le_iff_of_depth_eq hdepth).mpr
          (hile k hk hholds)
      · exact (SourceFile.rank_le_iff_of_depth_eq hdepth.symm).mpr
          (hleast _ (mem_walk_iff.mpr ⟨i, hi, rfl⟩) hiholds)
    obtain rfl := h.eq_of_rank_eq hi hk hrank
    exact ⟨i, j, hi, hj, rfl, rfl, hpar⟩

/-- A file stands right below one file only. -/
lemma StandsUnder.unique (h : Ordered w.entries) {f g g' : SourceFile}
    (hg : StandsUnder w f g) (hg' : StandsUnder w f g') : g = g' := by
  obtain ⟨i, j, hi, hj, rfl, rfl, hpar⟩ :=
    (standsUnder_iff_parent h.linked).mp hg
  obtain ⟨i', j', hi', hj', rfl, hfile, hpar'⟩ :=
    (standsUnder_iff_parent h.linked).mp hg'
  obtain rfl := h.eq_of_rank_eq hj' hj (congrArg SourceFile.rank hfile)
  obtain rfl := Option.some.inj (hpar.symm.trans hpar')
  rfl

/-- A file stands below another one if any file can hold it. -/
lemma exists_standsUnder_iff (h : Ordered w.entries) {f : SourceFile}
    (hf : f ∈ w.walk) :
    (∃ g, StandsUnder w f g) ↔ ∃ g ∈ w.walk, g.holds f := by
  constructor
  · rintro ⟨g, hg⟩
    obtain ⟨-, hmem, hholds, -⟩ := (standsUnder_iff h).mp hg
    exact ⟨g, hmem, hholds⟩
  · rintro ⟨g, hg, hholds⟩
    obtain ⟨j, hj, rfl⟩ := mem_walk_iff.mp hf
    obtain ⟨k, hk, rfl⟩ := mem_walk_iff.mp hg
    obtain ⟨i, hpar⟩ := h.exists_parent hj hk hholds
    obtain ⟨hi, -, -⟩ := h.parent_spec hj hpar
    exact ⟨_, (standsUnder_iff_parent h.linked).mpr
      ⟨i, j, hi, hj, rfl, rfl, hpar⟩⟩

/-- At the top are the files that no file can hold. -/
lemma mem_top_iff (h : Ordered w.entries) {f : SourceFile} :
    f ∈ w.forest.map Tree.file ↔
      f ∈ w.walk ∧ ¬ ∃ g ∈ w.walk, g.holds f := by
  rw [map_file_forest h.linked, List.mem_map]
  constructor
  · rintro ⟨e, he, rfl⟩
    obtain ⟨he, hnone⟩ := List.mem_filter.mp he
    obtain ⟨j, hj, rfl⟩ := List.mem_iff_getElem.mp he
    refine ⟨mem_walk_iff.mpr ⟨j, hj, rfl⟩, ?_⟩
    rintro ⟨g, hg, hholds⟩
    obtain ⟨k, hk, rfl⟩ := mem_walk_iff.mp hg
    obtain ⟨i, hpar⟩ := h.exists_parent hj hk hholds
    simp [hpar] at hnone
  · rintro ⟨hf, hno⟩
    obtain ⟨j, hj, rfl⟩ := mem_walk_iff.mp hf
    refine ⟨_, List.mem_filter.mpr ⟨List.getElem_mem hj, ?_⟩, rfl⟩
    cases hpar : w.entries[j].parent with
    | none => rfl
    | some i =>
        obtain ⟨hi, hholds, -⟩ := h.parent_spec hj hpar
        exact absurd ⟨_, mem_walk_iff.mpr ⟨i, hi, rfl⟩, hholds⟩ hno

/-- The files at the top are strictly increasing in rank. -/
lemma pairwise_rank_forest (h : Ordered w.entries) :
    (w.forest.map Tree.file).Pairwise fun f g => f.rank < g.rank := by
  rw [map_file_forest h.linked]
  exact h.sorted.sublist (List.filter_sublist.map _)

/-- The files right below one file are strictly increasing in rank, and
as all of them have one depth, by name and path. -/
lemma pairwise_siblingRank_subs (h : Ordered w.entries) {t : Tree}
    (ht : t ∈ Tree.subtreesAll w.forest) :
    (t.subs.map Tree.file).Pairwise fun f g =>
      f.siblingRank < g.siblingRank := by
  obtain ⟨i, hi, hfile, hsubs⟩ :=
    (mem_families_iff h.linked).mp ⟨t, ht, rfl, rfl⟩
  have hsorted : (filesUnder w.entries i).Pairwise fun f g =>
      f.rank < g.rank := h.sorted.sublist (List.filter_sublist.map _)
  have hdepth : ∀ f ∈ filesUnder w.entries i,
      t.file.depth = f.depth - 1 := by
    intro f hf
    obtain ⟨e, he, rfl⟩ := List.mem_map.mp hf
    obtain ⟨he, hpar⟩ := List.mem_filter.mp he
    obtain ⟨j, hj, rfl⟩ := List.mem_iff_getElem.mp he
    obtain ⟨_, hholds, -⟩ := h.parent_spec hj (by simpa using hpar)
    rw [← hfile]
    exact (SourceFile.holds_iff.mp hholds).2.1
  rw [← hsubs]
  refine hsorted.imp_of_mem fun {f g} hf hg hlt => ?_
  have hf' := hdepth f hf
  have hg' := hdepth g hg
  exact (SourceFile.rank_lt_iff_of_depth_eq (by omega)).mp hlt

/-! ### The paths fix the trees -/

/-- Strictly increasing files with the same outlines are the same up to
their definitions. -/
lemma map_outline_eq_of_mem_iff {fs gs : List SourceFile}
    (hfs : fs.Pairwise fun f g => f.rank < g.rank)
    (hgs : gs.Pairwise fun f g => f.rank < g.rank)
    (h : ∀ x, x ∈ fs.map SourceFile.outline ↔
      x ∈ gs.map SourceFile.outline) :
    fs.map SourceFile.outline = gs.map SourceFile.outline := by
  have hsorted : ∀ {ls : List SourceFile},
      ls.Pairwise (fun f g => f.rank < g.rank) →
      (ls.map SourceFile.outline).Pairwise fun f g => f.rank < g.rank :=
    fun hls => List.pairwise_map.mpr hls
  have hnodup : ∀ {ls : List SourceFile},
      ls.Pairwise (fun f g => f.rank < g.rank) → ls.Nodup := fun hls =>
    hls.imp fun {f g} hlt heq => hlt.ne (congrArg SourceFile.rank heq)
  have hperm := (List.perm_ext_iff_of_nodup (hnodup (hsorted hfs))
    (hnodup (hsorted hgs))).mpr h
  exact hperm.eq_of_pairwise
    (fun f g _ _ hfg hgf => absurd hfg hgf.asymm) (hsorted hfs) (hsorted hgs)

variable {current folder : Path} {ds : List Definition}

/-- The outlines of the files of a filled workspace are those of its
paths. -/
lemma mem_map_outline_walk (h : build current folder ds = .ok w)
    {x : SourceFile} :
    x ∈ w.walk.map SourceFile.outline ↔
      x.path ∈ w.walk.map (·.path) ∧ x.definitions = [] ∧
        x.depth = (x.path.parts.length : ℤ) - 1 := by
  rw [List.mem_map, List.mem_map]
  constructor
  · rintro ⟨f, hf, rfl⟩
    exact ⟨⟨f, hf, rfl⟩, rfl, (path_of_mem_walk h hf).2.2.2⟩
  · rintro ⟨⟨f, hf, hpath⟩, hdefs, hdepth⟩
    refine ⟨f, hf, ?_⟩
    have hf' := (path_of_mem_walk h hf).2.2.2
    obtain ⟨path, depth, definitions⟩ := x
    dsimp only at hpath hdefs hdepth
    rw [SourceFile.outline, hf', hpath, hdefs, hdepth]

/-- The files of a filled workspace are added in an order that their
paths fix. -/
lemma map_outline_entries_eq {current' folder' : Path}
    {ds' : List Definition} {w' : Workspace}
    (h : build current folder ds = .ok w)
    (h' : build current' folder' ds' = .ok w')
    (hpaths : ∀ q, q ∈ w.walk.map (·.path) ↔ q ∈ w'.walk.map (·.path)) :
    (w.entries.map (·.file)).map SourceFile.outline =
      (w'.entries.map (·.file)).map SourceFile.outline := by
  refine map_outline_eq_of_mem_iff (sorted_of_build h) (sorted_of_build h')
    fun x => ?_
  rw [((walk_perm w).symm.map _).mem_iff,
    ((walk_perm w').symm.map _).mem_iff, mem_map_outline_walk h,
    mem_map_outline_walk h', hpaths]

/-- The paths of the files of a filled workspace fix its entries up to the
definitions. -/
lemma outline_entries_eq {current' folder' : Path} {ds' : List Definition}
    {w' : Workspace} (h : build current folder ds = .ok w)
    (h' : build current' folder' ds' = .ok w')
    (hpaths : ∀ q, q ∈ w.walk.map (·.path) ↔ q ∈ w'.walk.map (·.path)) :
    w.entries.map Entry.outline = w'.entries.map Entry.outline := by
  have hfiles := map_outline_entries_eq h h' hpaths
  obtain ⟨rs, -, rfl⟩ := build_eq_ok_iff.mp h
  obtain ⟨rs', -, rfl⟩ := build_eq_ok_iff.mp h'
  rw [map_file_addAll, map_file_addAll] at hfiles
  exact map_outline_entries_addAll (v := empty current folder)
    (w := empty current' folder') rfl (by simpa [empty] using hfiles)

/-- The paths of the files of a filled workspace fix its trees up to the
definitions. -/
lemma outline_forest_eq {current' folder' : Path} {ds' : List Definition}
    {w' : Workspace} (h : build current folder ds = .ok w)
    (h' : build current' folder' ds' = .ok w')
    (hpaths : ∀ q, q ∈ w.walk.map (·.path) ↔ q ∈ w'.walk.map (·.path)) :
    w.forest.map Tree.outline = w'.forest.map Tree.outline := by
  rw [map_outline_forest, map_outline_forest, outline_entries_eq h h' hpaths]

/-! ### The hierarchy law -/

/-- **The hierarchy law.** In the trees of a filled workspace every file
stands once. A file stands right below another one if it lies below the
top and there is, anywhere, a file one level higher that bears the name
of its folder; the one above it is then the least of these by name and
path. All other files, and no others, stand at the top. The files at the
top are strictly increasing by depth, name and path, and those right
below one file by name and path; so the paths of the files fix the
trees. -/
theorem hierarchy_of_build (current folder : Path) (ds : List Definition)
    (h : ∀ d ∈ ds, Resolvable d) :
    ∃ w, build current folder ds = .ok w ∧ w.walk.Nodup ∧
      (∀ f ∈ w.walk, f.depth = (f.path.parts.length : ℤ) - 1) ∧
      (∀ f ∈ w.walk, (∃ g, StandsUnder w f g) ↔
        0 < f.depth ∧ ∃ g ∈ w.walk,
          g.depth = f.depth - 1 ∧ g.stem = f.path.parent.name) ∧
      (∀ f g, StandsUnder w f g ↔
        f ∈ w.walk ∧ 0 < f.depth ∧ g ∈ w.walk ∧
          (g.depth = f.depth - 1 ∧ g.stem = f.path.parent.name) ∧
          ∀ g' ∈ w.walk,
            g'.depth = f.depth - 1 ∧ g'.stem = f.path.parent.name →
              toLex (g.name, g.path.text) ≤ toLex (g'.name, g'.path.text)) ∧
      (∀ f g g', StandsUnder w f g → StandsUnder w f g' → g = g') ∧
      (∀ f, f ∈ w.forest.map Tree.file ↔
        f ∈ w.walk ∧ ¬ ∃ g, StandsUnder w f g) ∧
      ((w.forest.map Tree.file).Pairwise fun f g =>
        toLex (f.depth, toLex (f.name, f.path.text)) <
          toLex (g.depth, toLex (g.name, g.path.text))) ∧
      (∀ t ∈ Tree.subtreesAll w.forest,
        (t.subs.map Tree.file).Pairwise fun f g =>
          toLex (f.name, f.path.text) < toLex (g.name, g.path.text)) ∧
      ∀ current' folder' ds' w', build current' folder' ds' = .ok w' →
        (∀ q, q ∈ w.walk.map (·.path) ↔ q ∈ w'.walk.map (·.path)) →
          w.forest.map Tree.outline = w'.forest.map Tree.outline := by
  obtain ⟨w, hw⟩ := exists_build current folder h
  have hord := ordered_of_build hw
  have hdepth : ∀ f ∈ w.walk, f.depth = (f.path.parts.length : ℤ) - 1 :=
    fun f hf => (path_of_mem_walk hw hf).2.2.2
  have hpos : ∀ f ∈ w.walk, f.depth ≠ 0 ↔ 0 < f.depth := by
    intro f hf
    have hlen := List.length_pos_iff.mpr (path_of_mem_walk hw hf).2.1
    have := hdepth f hf
    omega
  refine ⟨w, hw, hord.nodup_walk, hdepth, ?_, ?_,
    fun _ _ _ hg hg' => hg.unique hord hg', ?_,
    pairwise_rank_forest hord, fun t ht => pairwise_siblingRank_subs hord ht,
    fun _ _ _ _ h' hpaths => outline_forest_eq hw h' hpaths⟩
  · intro f hf
    simp only [exists_standsUnder_iff hord hf, SourceFile.holds_iff,
      hpos f hf]
    exact ⟨fun ⟨g, hg, h0, hh⟩ => ⟨h0, g, hg, hh⟩,
      fun ⟨h0, g, hg, hh⟩ => ⟨g, hg, h0, hh⟩⟩
  · intro f g
    rw [standsUnder_iff hord]
    constructor
    · rintro ⟨hf, hg, hholds, hleast⟩
      obtain ⟨h0, hh⟩ := SourceFile.holds_iff.mp hholds
      exact ⟨hf, (hpos f hf).mp h0, hg, hh, fun g' hg' hh' =>
        hleast g' hg' (SourceFile.holds_iff.mpr ⟨h0, hh'⟩)⟩
    · rintro ⟨hf, h0, hg, hh, hleast⟩
      refine ⟨hf, hg, SourceFile.holds_iff.mpr ⟨(hpos f hf).mpr h0, hh⟩,
        fun g' hg' hholds' => hleast g' hg' ?_⟩
      exact (SourceFile.holds_iff.mp hholds').2
  · intro f
    rw [mem_top_iff hord]
    exact and_congr_right fun hf => not_congr
      (exists_standsUnder_iff hord hf).symm

/-- In the library the files of a folder stand below the file that bears
its name. -/
theorem hierarchy_of_build_sampleLibrary :
    (∀ d ∈ sampleLibrary, Resolvable d) ∧
      ∃ w, build .here (.ofText "/w/lib") sampleLibrary = .ok w ∧
        w.walk.Nodup ∧
        ∀ f, f ∈ w.forest.map Tree.file ↔
          f ∈ w.walk ∧ ¬ ∃ g, StandsUnder w f g := by
  obtain ⟨w, hw, hnodup, -, -, -, -, htop, -⟩ := hierarchy_of_build .here
    (.ofText "/w/lib") sampleLibrary resolvable_sampleLibrary
  exact ⟨resolvable_sampleLibrary, w, hw, hnodup, htop⟩

end ApiBook.Workspace
