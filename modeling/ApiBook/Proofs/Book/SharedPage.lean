/-
When two chapters have one page.

* `SharesPage`: files of one folder whose names differ in nothing but the
  suffix;
* `IsPage.eq_iff`: such files have one page, and no others;
* `exists_files_chapterOf`: the chapters of a tree belong to files of it,
  one to each, in the order of the files;
* `path_eq_iff_of_build`: **two chapters have one page if their files
  share it**, and only then;
* `not_nodup_pages_twinLibrary`: a library in which two files do.
-/
import ApiBook.Proofs.Book.Page
import ApiBook.Proofs.Workspace.Hierarchy

namespace ApiBook.Book

open Record (Definition)
open Workspace (Tree)

/-! ### Pages of two files -/

/-- Whether files have one page: they lie in one folder, and their names
differ in nothing but the suffix. -/
def SharesPage (f g : SourceFile) : Prop :=
  f.path.parts.dropLast = g.path.parts.dropLast ∧ f.stem = g.stem

instance : DecidableRel SharesPage := fun f g =>
  inferInstanceAs (Decidable
    (f.path.parts.dropLast = g.path.parts.dropLast ∧ f.stem = g.stem))

/-- Two files have the same page below a folder if they share it, and only
then: the components of the page can be told from its path. -/
lemma IsPage.eq_iff {folder : Text} {f g : SourceFile}
    {page page' : Text} (hf : IsPage folder f page)
    (hg : IsPage folder g page') : page = page' ↔ SharesPage f g := by
  constructor
  · intro h
    rw [hf.eq, hg.eq] at h
    have hjoin := (Text.append_right_inj _).mp h
    have hparts := Text.join_inj (s := "/") rfl (by simp) (by simp)
      (fun s hs => (hf.isComponent s hs).no_slash)
      (fun s hs => (hg.isComponent s hs).no_slash) hjoin
    obtain ⟨hfolders, hnames⟩ := List.append_inj' hparts rfl
    exact ⟨hfolders, (Text.append_left_inj _).mp (List.cons.inj hnames).1⟩
  · rintro ⟨hfolders, hstem⟩
    rw [hf.eq, hg.eq, hfolders, hstem]

/-! ### The files of chapters -/

/-- A chapter belongs to a file: it bears the name of the file and has its
page. -/
def BelongsTo (folder : Text) (f : SourceFile) (c : Chapter) : Prop :=
  c.name = f.stem ∧ c.path = pagePath folder f

/-- The chapter of a tree belongs to the file at its top. -/
lemma belongsTo_chapterOf (p : Plan) (number : List ℤ)
    (parents : List Text) (t : Tree) :
    BelongsTo p.folder t.file (chapterOf p number parents t) := by
  refine ⟨?_, path_chapterOf p number parents t⟩
  obtain ⟨f, ts⟩ := t
  rw [chapterOf]
  split <;> rw [Chapter.name, Tree.file_node]

/-- The paths of chapters are the pages of the files that they belong
to. -/
lemma map_path_of_belongsTo {folder : Text} {fs : List SourceFile}
    {cs : List Chapter} (h : List.Forall₂ (BelongsTo folder) fs cs) :
    cs.map Chapter.path = fs.map (pagePath folder) := by
  induction h with
  | nil => rfl
  | cons hc _ ih => rw [List.map_cons, List.map_cons, hc.2, ih]

/-- If the chapters of each tree belong to files of it, so do the chapters
of trees one after the other. -/
lemma exists_files_walkAll {R : SourceFile → Chapter → Prop}
    {ts : List Tree} {cs : List Chapter}
    (h : List.Forall₂ (fun t c => ∃ fs : List SourceFile,
      fs.Sublist t.walk ∧ t.file ∈ fs ∧ List.Forall₂ R fs c.walk) ts cs) :
    ∃ fs : List SourceFile, fs.Sublist (Tree.walkAll ts) ∧
      (∀ t ∈ ts, t.file ∈ fs) ∧ List.Forall₂ R fs (Chapter.walkAll cs) := by
  induction h with
  | nil => exact ⟨[], List.Sublist.refl _, List.forall_mem_nil _, .nil⟩
  | @cons t c ts cs ht _ ih =>
    obtain ⟨fs, hsub, htop, hfs⟩ := ht
    obtain ⟨gs, hsub', htops, hgs⟩ := ih
    refine ⟨fs ++ gs, ?_, List.forall_mem_cons.mpr ⟨?_, fun u hu => ?_⟩, ?_⟩
    · rw [Tree.walkAll]
      exact hsub.append hsub'
    · exact List.mem_append_left gs htop
    · exact List.mem_append_right fs (htops u hu)
    · rw [Chapter.walkAll]
      exact List.rel_append hfs hgs

/-- The chapters of a tree belong to files of it, in order, one of them to
the file at the top. -/
lemma exists_files_chapterOf (p : Plan) (number : List ℤ)
    (parents : List Text) (t : Tree) :
    ∃ fs : List SourceFile, fs.Sublist t.walk ∧ t.file ∈ fs ∧
      List.Forall₂ (BelongsTo p.folder) fs
        (chapterOf p number parents t).walk := by
  induction t using Tree.ind generalizing number parents with
  | _ f ts ih =>
    have hown := belongsTo_chapterOf p number parents (.node f ts)
    rw [Tree.file_node] at hown
    rw [Tree.walk, Chapter.walk_eq, Tree.file_node]
    by_cases hcut : p.limit.cuts f.depth
    · have hsubs : (chapterOf p number parents (.node f ts)).subs = [] := by
        rw [chapterOf, if_pos hcut, Chapter.subs]
      refine ⟨[f], (List.nil_sublist _).cons_cons f, List.mem_cons_self, ?_⟩
      rw [hsubs]
      exact .cons hown .nil
    · have hsubs : (chapterOf p number parents (.node f ts)).subs =
          chaptersOf p number 1 (parents ++ [f.stem]) ts := by
        rw [chapterOf, if_neg hcut, Chapter.subs]
      obtain ⟨fs, hsub, -, hfs⟩ := exists_files_walkAll
        (forall₂_chaptersOf (fun u hu number parents =>
          ih u hu number parents) number 1 (parents ++ [f.stem]))
      refine ⟨f :: fs, hsub.cons_cons f, List.mem_cons_self, ?_⟩
      rw [hsubs]
      exact .cons hown hfs

variable {current root : Path} {ds : List Definition} {w : Workspace}

/-- The chapters of a filled workspace are made, and belong to files of
it, in order; those at the top have one in any case. -/
lemma exists_files_of_build (h : Workspace.build current root ds = .ok w)
    (o : Markdown.Options) (folder : Text) {limit : Value} (first : ℤ)
    (hlimit : NavLimit.ofValue limit ≠ .incomparable) :
    ∃ cs fs,
      ChapterRequest.chapters
        ⟨.writable o, .text folder, limit, .int first⟩ w = .ok cs ∧
      fs.Sublist w.walk ∧ (∀ t ∈ w.forest, t.file ∈ fs) ∧
      List.Forall₂ (BelongsTo folder) fs (Chapter.walkAll cs) := by
  let p : Plan := ⟨o, folder, .ofValue limit⟩
  obtain ⟨fs, hsub, htop, hfs⟩ := exists_files_walkAll
    (forall₂_chaptersOf (fun t (_ : t ∈ w.forest) number parents =>
      exists_files_chapterOf p number parents t) [] first [])
  exact ⟨_, fs, chapters_eq_ok hlimit fun f => name_of_mem_walk h, hsub,
    htop, hfs⟩

/-- Two files of a filled workspace have the same page if they share it,
and only then. -/
lemma pagePath_eq_iff (h : Workspace.build current root ds = .ok w)
    (folder : Text) {f g : SourceFile} (hf : f ∈ w.walk)
    (hg : g ∈ w.walk) :
    pagePath folder f = pagePath folder g ↔ SharesPage f g := by
  have hpage : ∀ f ∈ w.walk,
      IsPage (trimSlashes folder) f (pagePath folder f) := by
    intro f hf
    obtain ⟨hroot, hparts, hcomponents, -⟩ := Workspace.path_of_mem_walk h hf
    exact isPage_pagePath folder hroot hparts hcomponents
  exact (hpage f hf).eq_iff (hpage g hg)

/-- A file that lies in the folder of a filled workspace itself stands at
the top. -/
lemma exists_mem_forest_of_toPath
    (h : Workspace.build current root ds = .ok w) (name : Text)
    (hname : ∃ d ∈ ds, ∃ p ∈ d.defines,
      Location.toPath p.file = .ok (w.root.append ⟨.relative, [name]⟩)) :
    ∃ t ∈ w.forest, t.file.path = ⟨.relative, [name]⟩ := by
  have hpath := (Workspace.mem_map_path_walk h).mpr
    ⟨rfl, List.cons_ne_nil name [], hname⟩
  obtain ⟨f, hf, hfpath⟩ := List.mem_map.mp hpath
  have hdepth : f.depth = 0 := by
    rw [(Workspace.path_of_mem_walk h hf).2.2.2, hfpath]
    rfl
  have htop := (Workspace.mem_top_iff (Workspace.ordered_of_build h)).mpr
    ⟨hf, fun ⟨g, _, hholds⟩ => (SourceFile.holds_iff.mp hholds).1 hdepth⟩
  obtain ⟨t, ht, rfl⟩ := List.mem_map.mp htop
  exact ⟨t, ht, hfpath⟩

/-- **Two chapters have one page if their files share it.** Whatever the
folder of a book is and the limit, be it null or any number, the chapters
of a filled workspace belong to different files of it, in the order of the
workspace. Two of them have the same path if their files lie in one folder
and have names that differ in nothing but the suffix, and only then. So
the paths are all different if no two of these files share a page, and
only then. -/
theorem path_eq_iff_of_build (h : Workspace.build current root ds = .ok w)
    (o : Markdown.Options) (folder : Text) (limit : Value) (first : ℤ)
    (hlimit : NavLimit.ofValue limit ≠ .incomparable) :
    ∃ cs fs,
      ChapterRequest.chapters
        ⟨.writable o, .text folder, limit, .int first⟩ w = .ok cs ∧
      fs.Sublist w.walk ∧ (fs.map (·.path)).Nodup ∧
      List.Forall₂ (BelongsTo folder) fs (Chapter.walkAll cs) ∧
      (∀ p ∈ fs.zip (Chapter.walkAll cs),
        ∀ q ∈ fs.zip (Chapter.walkAll cs),
          p.2.path = q.2.path ↔ SharesPage p.1 q.1) ∧
      (((Chapter.walkAll cs).map Chapter.path).Nodup ↔
        fs.Pairwise fun f g => ¬ SharesPage f g) := by
  obtain ⟨cs, fs, hcs, hsub, -, hfs⟩ :=
    exists_files_of_build h o folder first hlimit
  have heq : ∀ f ∈ fs, ∀ g ∈ fs,
      pagePath folder f = pagePath folder g ↔ SharesPage f g :=
    fun f hf g hg =>
      pagePath_eq_iff h folder (hsub.subset hf) (hsub.subset hg)
  have hdifferent : (fs.map (·.path)).Nodup :=
    (Workspace.nodup_map_path_walk h).sublist (hsub.map _)
  refine ⟨cs, fs, hcs, hsub, hdifferent, hfs, ?_, ?_⟩
  · rintro ⟨f, c⟩ hp ⟨g, d⟩ hq
    have hc : BelongsTo folder f c := List.forall₂_zip hfs hp
    have hd : BelongsTo folder g d := List.forall₂_zip hfs hq
    rw [hc.2, hd.2]
    exact heq f (List.of_mem_zip hp).1 g (List.of_mem_zip hq).1
  · rw [map_path_of_belongsTo hfs, List.Nodup, List.pairwise_map]
    constructor
    · exact fun hne => hne.imp_of_mem fun hf hg hne hshare =>
        hne ((heq _ hf _ hg).mpr hshare)
    · exact fun hno => hno.imp_of_mem fun hf hg hno hpath =>
        hno ((heq _ hf _ hg).mp hpath)

/-- A library of two files at the top whose names differ in nothing but
the suffix, and of two files below that have pages of their own. -/
def twinLibrary : List Definition := [
  Workspace.placed "a" [("file:///w/lib/a.lua", 0)],
  Workspace.placed "b" [("file:///w/lib/a.txt", 0)],
  Workspace.placed "c" [("file:///w/lib/a/a.lua", 0)],
  Workspace.placed "d" [("file:///w/lib/a/a.b.lua", 0)]]

/-- The library fills a workspace, in which two different files at the top
share a page. -/
lemma exists_build_twinLibrary :
    ∃ w, Workspace.build .here (.ofText "/w/lib") twinLibrary = .ok w ∧
      ∃ t ∈ w.forest, ∃ u ∈ w.forest,
        t.file.path ≠ u.file.path ∧ SharesPage t.file u.file := by
  have hplaces : ∀ d ∈ twinLibrary, Workspace.Resolvable d := by
    decide +kernel
  obtain ⟨w, hw⟩ :=
    Workspace.exists_build .here (.ofText "/w/lib") hplaces
  have hroot := Workspace.root_of_build hw
  obtain ⟨t, ht, htpath⟩ := exists_mem_forest_of_toPath hw "a.lua"
    (by rw [hroot]; decide +kernel)
  obtain ⟨u, hu, hupath⟩ := exists_mem_forest_of_toPath hw "a.txt"
    (by rw [hroot]; decide +kernel)
  refine ⟨w, hw, t, ht, u, hu, ?_, ?_⟩
  · rw [htpath, hupath]
    decide
  · rw [SharesPage, SourceFile.stem, SourceFile.stem, htpath, hupath]
    decide +kernel

/-- Two files of the library share a page, and the paths of the chapters
tell whether any two files do. -/
theorem path_eq_iff_of_build_twinLibrary :
    NavLimit.ofValue (.int 1) ≠ .incomparable ∧
    ∃ w, Workspace.build .here (.ofText "/w/lib") twinLibrary = .ok w ∧
      ∃ cs, ∃ fs : List SourceFile,
        ChapterRequest.chapters
          ⟨.writable {}, .text "/api/", .int 1, .int 1⟩ w = .ok cs ∧
        fs.Sublist w.walk ∧
        (((Chapter.walkAll cs).map Chapter.path).Nodup ↔
          fs.Pairwise fun f g => ¬ SharesPage f g) := by
  have hlimit : NavLimit.ofValue (.int 1) ≠ .incomparable :=
    fun h => nomatch h
  obtain ⟨w, hw, -⟩ := exists_build_twinLibrary
  obtain ⟨cs, fs, hcs, hsub, -, -, -, hnodup⟩ :=
    path_eq_iff_of_build hw {} "/api/" (.int 1) 1 hlimit
  exact ⟨hlimit, w, hw, cs, fs, hcs, hsub, hnodup⟩

/-- Different files have chapters with one path: the pages of the two
files at the top are the same. -/
theorem not_nodup_pages_twinLibrary :
    ∃ w cs, Workspace.build .here (.ofText "/w/lib") twinLibrary = .ok w ∧
      ({} : ChapterRequest).chapters w = .ok cs ∧
      ¬ ((Chapter.walkAll cs).map Chapter.path).Nodup := by
  obtain ⟨w, hw, t, ht, u, hu, hne, hshare⟩ := exists_build_twinLibrary
  have hlimit : NavLimit.ofValue .null ≠ .incomparable :=
    fun h => nomatch h
  obtain ⟨cs, fs, hcs, hsub, htop, hfs⟩ :=
    exists_files_of_build hw {} "api" 1 hlimit
  refine ⟨w, cs, hw, hcs, fun hnodup => hne ?_⟩
  have ht' := htop t ht
  have hu' := htop u hu
  have hpage := (pagePath_eq_iff hw "api" (hsub.subset ht')
    (hsub.subset hu')).mpr hshare
  rw [map_path_of_belongsTo hfs] at hnodup
  exact congrArg SourceFile.path
    (List.inj_on_of_nodup_map hnodup ht' hu' hpage)

end ApiBook.Book
