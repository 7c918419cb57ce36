/-
The order in which the files of a workspace are added.

* `SourceFile.rank`: depth, then name, then path; `comesFirst_eq`: the
  files are added by their rank;
* `rank_inj_of_mem_grouped`: files with the same rank are the same;
* `sorted_of_build`: the entries of a filled workspace are strictly
  increasing in rank;
* `depth_of_mem_walk`: the depth of a file is one less than the number of
  components of its path.
-/
import ApiBook.Proofs.Order.StableSort
import ApiBook.Proofs.Text.Ordered
import ApiBook.Proofs.Workspace.Grouping

namespace ApiBook

/-! ### Ranks -/

/-- Where a file stands among the files below one and the same file. -/
def SourceFile.siblingRank (f : SourceFile) : Text ×ₗ Text :=
  toLex (f.name, f.path.text)

/-- Where a file stands among all files. -/
def SourceFile.rank (f : SourceFile) : ℤ ×ₗ Text ×ₗ Text :=
  toLex (f.depth, f.siblingRank)

namespace SourceFile

/-- Files of one depth are ranked as siblings are. -/
lemma rank_le_iff_of_depth_eq {f g : SourceFile} (h : f.depth = g.depth) :
    f.rank ≤ g.rank ↔ f.siblingRank ≤ g.siblingRank := by
  rw [rank, rank, Prod.Lex.toLex_le_toLex]
  simp [h]

/-- Files of one depth are ranked as siblings are. -/
lemma rank_lt_iff_of_depth_eq {f g : SourceFile} (h : f.depth = g.depth) :
    f.rank < g.rank ↔ f.siblingRank < g.siblingRank := by
  rw [rank, rank, Prod.Lex.toLex_lt_toLex]
  simp [h]

/-- Files of higher levels are ranked first. -/
lemma rank_lt_of_depth_lt {f g : SourceFile} (h : f.depth < g.depth) :
    f.rank < g.rank := by
  rw [rank, rank, Prod.Lex.toLex_lt_toLex]
  exact Or.inl h

/-- A file may be the parent of one that lies a level deeper, in a folder
that bears its name. -/
lemma holds_iff {f g : SourceFile} :
    g.holds f ↔
      f.depth ≠ 0 ∧ g.depth = f.depth - 1 ∧ g.stem = f.path.parent.name := by
  rw [holds, directory?]
  by_cases hf : f.depth = 0
  · simp [hf]
  · rw [if_neg hf, Bool.and_eq_true, decide_eq_true_iff, decide_eq_true_iff,
      Option.some.injEq]
    constructor
    · rintro ⟨hdepth, hname⟩
      exact ⟨hf, hdepth, hname.symm⟩
    · rintro ⟨-, hdepth, hname⟩
      exact ⟨hdepth, hname.symm⟩

/-- A parent ranks before the files that it holds. -/
lemma rank_lt_of_holds {f g : SourceFile} (h : g.holds f) :
    g.rank < f.rank := by
  obtain ⟨-, hdepth, -⟩ := holds_iff.mp h
  exact rank_lt_of_depth_lt (by omega)

end SourceFile

namespace Workspace

open Record (Definition)

/-- Files are put in the order of their ranks. -/
lemma comesFirst_eq (f g : SourceFile) :
    comesFirst f g = decide (f.rank ≤ g.rank) := by
  rw [Bool.eq_iff_iff, decide_eq_true_iff, comesFirst, SourceFile.rank,
    SourceFile.rank, Prod.Lex.toLex_le_toLex, SourceFile.siblingRank,
    SourceFile.siblingRank, Prod.Lex.toLex_le_toLex]
  by_cases hd : f.depth = g.depth
  · by_cases hn : f.name = g.name
    · simp [hd, hn]
    · simp [hd, hn]
  · simp [hd]

/-! ### Sorted files -/

variable {ds : List Definition} {rs : List Resolved}

/-- The files that are grouped lie below the folder step by step. -/
lemma isComponent_of_mem_grouped (h : List.Forall₂ ResolvesTo ds rs)
    {root : Path} {f : SourceFile} (hf : f ∈ grouped root rs) :
    ∀ s ∈ f.path.parts, Path.IsComponent s := by
  obtain ⟨hroot, -, hpath, -⟩ := mem_grouped_iff.mp hf
  obtain ⟨d, -, p, -, hp⟩ := (mem_pathsOf_iff h).mp hpath
  intro s hs
  refine Path.isComponent_of_toPath hp s ?_
  rw [Path.append_of_relative hroot]
  exact List.mem_append_right _ hs

/-- Files with the same rank are the same. -/
lemma rank_inj_of_mem_grouped (h : List.Forall₂ ResolvesTo ds rs)
    {root : Path} {f g : SourceFile} (hf : f ∈ grouped root rs)
    (hg : g ∈ grouped root rs) (hrank : f.rank = g.rank) :
    f.path = g.path := by
  obtain ⟨hfr, hfp, -, -⟩ := mem_grouped_iff.mp hf
  obtain ⟨hgr, hgp, -, -⟩ := mem_grouped_iff.mp hg
  have htext : f.path.text = g.path.text :=
    congrArg (fun r => (ofLex (ofLex r).2).2) hrank
  exact Path.text_inj hfr hgr hfp hgp (isComponent_of_mem_grouped h hf)
    (isComponent_of_mem_grouped h hg) htext

/-- The files of definitions are strictly increasing in rank. -/
lemma pairwise_rank_filesOf (h : List.Forall₂ ResolvesTo ds rs)
    (root : Path) :
    (filesOf root rs).Pairwise fun f g => f.rank < g.rank := by
  have hsort : filesOf root rs =
      (grouped root rs).mergeSort fun f g => f.rank ≤ g.rank := by
    rw [filesOf]
    congr 1
    exact funext fun f => funext fun g => comesFirst_eq f g
  rw [hsort]
  refine Order.pairwise_lt_of_nodup SourceFile.rank ?_
  have hpaths := List.pairwise_map.mp (nodup_grouped root rs)
  refine List.pairwise_map.mpr (hpaths.imp_of_mem ?_)
  intro f g hf hg hne hrank
  exact hne (rank_inj_of_mem_grouped h hf hg hrank)

variable {current folder : Path} {w : Workspace}

/-- The entries of a filled workspace are strictly increasing in rank. -/
lemma sorted_of_build (h : build current folder ds = .ok w) :
    (w.entries.map (·.file)).Pairwise fun f g => f.rank < g.rank := by
  obtain ⟨rs, hrs, hfiles⟩ := map_file_of_build h
  rw [hfiles]
  exact pairwise_rank_filesOf hrs w.root

/-- What is known of the files of a filled workspace apart from the
definitions: relative paths that lead down step by step, and the depth
that goes with the path. -/
lemma path_of_mem_walk (h : build current folder ds = .ok w)
    {f : SourceFile} (hf : f ∈ w.walk) :
    f.path.root = .relative ∧ f.path.parts ≠ [] ∧
      (∀ s ∈ f.path.parts, Path.IsComponent s) ∧
      f.depth = (f.path.parts.length : ℤ) - 1 := by
  obtain ⟨rs, hrs, hperm⟩ := walk_perm_grouped h
  have hf' := hperm.mem_iff.mp hf
  obtain ⟨hroot, hne, -, heq⟩ := mem_grouped_iff.mp hf'
  refine ⟨hroot, hne, isComponent_of_mem_grouped hrs hf', ?_⟩
  have hdepth : f.depth = (f.path.length : ℤ) - 1 := by
    rw [heq]
    rfl
  rw [hdepth, Path.length, Path.isAbsolute, hroot]
  simp

end Workspace

end ApiBook
