/-
Where the chapters of a workspace have their pages: below the folder that
was asked for, and never outside of it.

* `isComponent_append_suffix`: a name with a suffix leads one step down;
* `IsPage`: the page of a file below a folder;
* `isPage_pagePath`: files that lie below the folder of the workspace
  have such pages;
* `Nests`: chapters that are nested as the files are, each with its own
  page;
* `pages_of_build`: **no page is outside of its folder**, whatever the
  locations of the definitions are.
-/
import ApiBook.Proofs.Book.Chapter
import ApiBook.Proofs.Text.Trimmed
import ApiBook.Proofs.Workspace.Contents

namespace ApiBook

open Record (Definition)
open Workspace (Tree)

namespace Path

/-! ### Names with another suffix -/

/-- The name of a file begins with its stem. -/
lemma exists_append_stemOf (name : Text) :
    ∃ rest, name.toList = (stemOf name).toList ++ rest := by
  rw [stemOf, splitSuffix?]
  cases hcut : Text.breakAtLast? (.char '.') name.toList with
  | none => exact ⟨[], (List.append_nil _).symm⟩
  | some cut =>
      obtain ⟨stem, suffix⟩ := cut
      by_cases hempty : stem.isEmpty || suffix.isEmpty
      · exact ⟨[], by simp [hempty]⟩
      · refine ⟨.char '.' :: suffix, ?_⟩
        simp only [hempty, Bool.false_eq_true, if_false]
        exact Text.append_of_breakAtLast? hcut

/-- A name with a suffix leads one step down, whatever the name is. -/
lemma isComponent_append_suffix {name : Text}
    (h : Code.char '/' ∉ name.toList) :
    IsComponent (name ++ ".md") := by
  have hlength : (name ++ ".md").toList.length = name.toList.length + 3 := by
    rw [Text.toList_append, List.length_append]
    rfl
  have hne : ∀ s : Text, s.toList.length < 3 → name ++ ".md" ≠ s := by
    rintro s hs rfl
    omega
  refine ⟨hne _ (by decide), hne _ (by decide), hne _ (by decide), ?_⟩
  rw [Text.toList_append, List.mem_append]
  rintro (hmem | hmem)
  · exact h hmem
  · exact absurd hmem (by decide)

/-- A path that leads down step by step takes another suffix, and leads
down in the same folders. -/
lemma withSuffix?_of_isComponent {p : Path} (hp : p.parts ≠ [])
    (h : ∀ s ∈ p.parts, IsComponent s) :
    p.withSuffix? ".md" =
        some ⟨p.root, p.parts.dropLast ++ [p.stem ++ ".md"]⟩ ∧
      ∀ s ∈ p.parts.dropLast ++ [p.stem ++ ".md"], IsComponent s := by
  have hname := h _ (name_mem_parts hp)
  constructor
  · have hempty : ¬ p.name.isEmpty := fun hempty =>
      hname.ne_empty (Text.isEmpty_iff.mp hempty)
    rw [withSuffix?, if_neg hempty]
  · intro s hs
    rcases List.mem_append.mp hs with hs | hs
    · exact h s ((List.dropLast_sublist _).subset hs)
    · rw [List.mem_singleton.mp hs]
      obtain ⟨rest, hrest⟩ := exists_append_stemOf p.name
      refine isComponent_append_suffix fun hmem => hname.no_slash ?_
      rw [hrest]
      exact List.mem_append_left _ hmem

end Path

namespace Book

/-! ### Pages -/

/-- A text is the path of the page of a file below a folder, the folder
being given without slashes at its ends. -/
structure IsPage (folder : Text) (f : SourceFile) (page : Text) :
    Prop where
  /-- After the folder, if there is one, come the folders of the file, and
  the stem of its name with another suffix. -/
  eq : page = (if folder.isEmpty then Text.ofString "" else folder ++ "/") ++
    Text.join "/" (f.path.parts.dropLast ++ [f.stem ++ ".md"])
  /-- Each of these leads one step down. -/
  isComponent : ∀ s ∈ f.path.parts.dropLast ++ [f.stem ++ ".md"],
    Path.IsComponent s
  head : page.toList.head? ≠ some (.char '/')

/-- A folder without slashes at its ends. -/
lemma trimmedOf_trimSlashes (folder : Text) :
    Text.TrimmedOf (.char '/') folder (trimSlashes folder) :=
  Text.trimmedOf_trim (.char '/') folder

/-- The pages of files that lie below the folder of the workspace. -/
lemma isPage_pagePath (folder : Text) {f : SourceFile}
    (hroot : f.path.root = .relative) (hparts : f.path.parts ≠ [])
    (h : ∀ s ∈ f.path.parts, Path.IsComponent s) :
    IsPage (trimSlashes folder) f (pagePath folder f) := by
  obtain ⟨hsuffix, hcomponents⟩ := Path.withSuffix?_of_isComponent hparts h
  have hpage : pagePath folder f =
      (if (trimSlashes folder).isEmpty then Text.ofString ""
        else trimSlashes folder ++ "/") ++
        Text.join "/" (f.path.parts.dropLast ++ [f.path.stem ++ ".md"]) := by
    have htext := Path.text_of_relative
      (p := ⟨.relative, f.path.parts.dropLast ++ [f.path.stem ++ ".md"]⟩)
      rfl (by simp)
    simp only [pagePath, hsuffix, Option.getD_some, hroot, htext]
    split
    · rw [Text.empty_append]
    · rfl
  refine ⟨hpage, hcomponents, ?_⟩
  rw [hpage]
  split
  · rw [Text.empty_append]
    exact Path.head?_join_ne_slash hcomponents
  · rename_i hne
    rw [Text.append_assoc, Text.toList_append,
      List.head?_append_of_ne_nil _ fun hnil =>
        hne (Text.isEmpty_iff.mpr (Text.ext hnil))]
    exact (trimmedOf_trimSlashes folder).head

/-! ### Chapters -/

/-- Chapters that are nested as the files are: the chapter of a file has
its page where it should be, and holds no chapters, or one for each file
right below, in order. -/
inductive Nests (R : SourceFile → Text → Prop) : Tree → Chapter → Prop
  | alone {t : Tree} {c : Chapter} (h : R t.file c.path)
      (hsubs : c.subs = []) : Nests R t c
  | around {t : Tree} {c : Chapter} (h : R t.file c.path)
      (hsubs : List.Forall₂ (Nests R) t.subs c.subs) : Nests R t c

/-- The chapter of a tree is nested as its files are. -/
lemma nests_chapterOf {R : SourceFile → Text → Prop} {p : Plan} {t : Tree}
    (h : ∀ f ∈ t.walk, R f (pagePath p.folder f)) (number : List ℤ)
    (parents : List Text) : Nests R t (chapterOf p number parents t) := by
  induction t using Tree.ind generalizing number parents with
  | _ f ts ih =>
    rw [Tree.walk, Tree.walkAll_eq_flatMap] at h
    obtain ⟨hf, hts⟩ := List.forall_mem_cons.mp h
    have hpage := path_chapterOf p number parents (.node f ts)
    rw [Tree.file_node] at hpage
    rw [← hpage] at hf
    by_cases hcut : p.limit.cuts f.depth
    · rw [chapterOf, if_pos hcut] at hf ⊢
      exact .alone hf rfl
    · rw [chapterOf, if_neg hcut] at hf ⊢
      refine .around hf (forall₂_chaptersOf (fun u hu => ?_) _ _ _)
      exact ih u hu fun g hg => hts g (List.mem_flatMap_of_mem hu hg)

variable {current root : Path} {ds : List Definition} {w : Workspace}

/-- **No page is outside of its folder.** Whatever the locations of the
definitions are that fill a workspace, the path of every file is
relative, is not empty, leads down step by step, and takes another
suffix; and whatever the folder of a book is and the limit, be it null or
any number, the chapters are made, and each has its page below the
folder, in the same folders as its file. -/
theorem pages_of_build (h : Workspace.build current root ds = .ok w) :
    (∀ f ∈ w.walk, f.path.root = .relative ∧ f.path.parts ≠ [] ∧
      (∀ s ∈ f.path.parts, Path.IsComponent s) ∧
      (f.path.withSuffix? ".md").isSome) ∧
    ∀ (o : Markdown.Options) (folder : Text) (limit : Value) (first : ℤ),
      NavLimit.ofValue limit ≠ .incomparable →
      ∃ inner cs, Text.TrimmedOf (.char '/') folder inner ∧
        ChapterRequest.chapters
          ⟨.writable o, .text folder, limit, .int first⟩ w = .ok cs ∧
        List.Forall₂ (Nests (IsPage inner)) w.forest cs := by
  refine ⟨fun f hf => ?_, fun o folder limit first hlimit => ?_⟩
  · obtain ⟨hroot, hparts, hcomponents, -⟩ := Workspace.path_of_mem_walk h hf
    obtain ⟨hsuffix, -⟩ :=
      Path.withSuffix?_of_isComponent hparts hcomponents
    exact ⟨hroot, hparts, hcomponents, by rw [hsuffix]; rfl⟩
  · refine ⟨trimSlashes folder, _, trimmedOf_trimSlashes folder,
      chapters_eq_ok hlimit fun f => name_of_mem_walk h,
      forall₂_chaptersOf (fun t ht number parents => ?_) _ _ _⟩
    refine nests_chapterOf (fun f hf => ?_) number parents
    obtain ⟨hroot, hparts, hcomponents, -⟩ := Workspace.path_of_mem_walk h
      ((Tree.walk_sublist_walkAll ht).subset hf)
    exact isPage_pagePath folder hroot hparts hcomponents

/-- A library with locations that lead out of its folder or seem to:
escaped dots and slashes, doubled slashes, a backslash, and names with
dots at their ends. -/
def strayLibrary : List Definition := [
  Workspace.placed "above" [("file:///w/lib/%2e%2e/above.lua", 0)],
  Workspace.placed "hidden" [("file:///w//lib/a%2F..%2F.hidden", 0)],
  Workspace.placed "back" [("file:///w/lib/a/..%5Cb.", 3)]]

/-- The files of the library that lie in its folder have their pages in
the folder of the book. -/
theorem pages_of_build_strayLibrary :
    ∃ w, Workspace.build .here (.ofText "/w/lib") strayLibrary = .ok w ∧
      ⟨.relative, ["a", "..\\b."]⟩ ∈ w.walk.map (·.path) ∧
      NavLimit.ofValue (.int 1) ≠ .incomparable ∧
      ∃ inner cs, Text.TrimmedOf (.char '/') "//api/" inner ∧
        ChapterRequest.chapters
          ⟨.writable {}, .text "//api/", .int 1, .int 1⟩ w = .ok cs ∧
        List.Forall₂ (Nests (IsPage inner)) w.forest cs := by
  have hplaces : ∀ d ∈ strayLibrary, Workspace.Resolvable d := by
    decide +kernel
  obtain ⟨w, hw⟩ :=
    Workspace.exists_build .here (.ofText "/w/lib") hplaces
  have hlimit : NavLimit.ofValue (.int 1) ≠ .incomparable :=
    fun h => nomatch h
  refine ⟨w, hw, (Workspace.mem_map_path_walk hw).mpr
    ⟨rfl, by decide, ?_⟩, hlimit,
    (pages_of_build hw).2 {} "//api/" (.int 1) 1 hlimit⟩
  rw [Workspace.root_of_build hw]
  decide +kernel

end Book

end ApiBook
