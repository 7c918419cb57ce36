/-
The listing of a folder and its workspace document the same definitions.

* `filesUnder`: the files in a folder that a definition has places in;
* `exists_positions_of_mem_walk`: a file of a workspace takes in each
  position at most once, as a listing does;
* `length_filter_walk`: the files of a workspace that a definition has
  places in;
* `select_agrees_with_build`: **a definition is listed exactly if some file
  of the workspace holds it**, once in the listing and once in each of its
  files.
-/
import ApiBook.Proofs.Workspace.Listing
import Mathlib.Data.Finset.Card

namespace ApiBook

open Record (Define Definition)
open Workspace (build)

/-! ### Files in a folder -/

/-- The files in a folder that a definition has places in. -/
def filesUnder (root : Path) (d : Definition) : Finset Path :=
  ((d.defines.filterMap fun p => (Location.toPath p.file).toOption).filter
    (root.isUnder ·)).toFinset

variable {root : Path}

/-- The files are those of the places. -/
lemma mem_filesUnder_iff {d : Definition} {q : Path} :
    q ∈ filesUnder root d ↔
      root.isUnder q ∧ ∃ p ∈ d.defines, Location.toPath p.file = .ok q := by
  simp only [filesUnder, List.mem_toFinset, List.mem_filter,
    List.mem_filterMap, Location.toOption_toPath_eq_some_iff]
  exact and_comm

/-- A definition has a place in a folder if it has a file there. -/
lemma hasPlaceUnder_iff {d : Definition} :
    hasPlaceUnder root d ↔ ∃ q, q ∈ filesUnder root d := by
  simp only [mem_filesUnder_iff, hasPlaceUnder, List.any_eq_true, liesUnder,
    Option.any_eq_true, Location.toOption_toPath_eq_some_iff]
  constructor
  · rintro ⟨p, hp, q, hpath, hunder⟩
    exact ⟨q, hunder, p, hp, hpath⟩
  · rintro ⟨q, hunder, p, hp, hpath⟩
    exact ⟨p, hp, q, hpath, hunder⟩

/-! ### Positions -/

/-- A file of a workspace holds one definition for every position in the
list that has a place in the file. -/
lemma exists_positions_of_mem_walk {current folder : Path}
    {ds : List Definition} {w : Workspace}
    (h : build current folder ds = .ok w) {f : SourceFile}
    (hf : f ∈ w.walk) :
    ∃ is : List (Fin ds.length), f.definitions = is.map ds.get ∧ is.Nodup ∧
      ∀ i, i ∈ is ↔ ∃ p ∈ (ds.get i).defines,
        Location.toPath p.file = .ok (w.root.append f.path) := by
  obtain ⟨is, hdefs, hmem, hsorted⟩ := Workspace.byOffset_filterMap
    (Workspace.firstStart? (w.root.append f.path)) ds
  refine ⟨is, (Workspace.definitions_of_mem_walk h hf).trans hdefs, ?_,
    fun i => by rw [hmem, Workspace.isSome_firstStart?_iff]⟩
  -- a position does not come before itself
  refine hsorted.imp_of_mem fun {i j} hi _ hlt => ?_
  rintro rfl
  obtain ⟨a, ha⟩ := Option.isSome_iff_exists.mp ((hmem i).mp hi)
  exact lt_irrefl _ (hlt a ha a ha)

/-- How often a value comes in lists that are put together, if it comes at
most once in each. -/
lemma count_flatMap_of_nodup {α β : Type*} [DecidableEq β] {as : List α}
    {g : α → List β} (h : ∀ a ∈ as, (g a).Nodup) (b : β) :
    (as.flatMap g).count b = (as.filter (b ∈ g ·)).length := by
  induction as with
  | nil => rfl
  | cons a as ih =>
    obtain ⟨ha, has⟩ := List.forall_mem_cons.mp h
    rw [List.flatMap_cons, List.count_append, ih has, List.filter_cons]
    by_cases hb : b ∈ g a
    · simp [hb, List.count_eq_one_of_mem ha hb, Nat.add_comm]
    · simp [hb, List.count_eq_zero_of_not_mem hb]

/-! ### Files of workspaces -/

variable {current : Path} {ds : List Definition} {w : Workspace}

/-- The files of a workspace that a definition has places in are those in
the folder, the folder itself left out. -/
lemma length_filter_walk {folder : Path}
    (h : build current folder ds = .ok w) {d : Definition} (hd : d ∈ ds)
    (hroot : ∀ p ∈ d.defines, Location.toPath p.file ≠ .ok w.root)
    {holds : SourceFile → Bool}
    (hholds : ∀ f ∈ w.walk, holds f ↔ ∃ p ∈ d.defines,
      Location.toPath p.file = .ok (w.root.append f.path)) :
    (w.walk.filter holds).length = (filesUnder w.root d).card := by
  have hpaths := fun q => Workspace.mem_map_path_walk h (q := q)
  have hrelative : ∀ f ∈ w.walk, f.path.root = .relative := fun f hf =>
    ((hpaths _).mp (List.mem_map_of_mem hf)).1
  let files := (w.walk.filter holds).map fun f => w.root.append f.path
  have hnodup : files.Nodup := by
    have hwalk := Workspace.nodup_map_path_walk h
    refine (hwalk.of_map.filter _).map_on fun f hf g hg heq => ?_
    have hf' := List.mem_of_mem_filter hf
    have hg' := List.mem_of_mem_filter hg
    rw [Path.append_of_relative (hrelative f hf'),
      Path.append_of_relative (hrelative g hg'), Path.mk.injEq,
      List.append_cancel_left_eq] at heq
    refine List.inj_on_of_nodup_map hwalk hf' hg' ?_
    calc f.path = ⟨f.path.root, f.path.parts⟩ := rfl
      _ = ⟨g.path.root, g.path.parts⟩ := by
        rw [hrelative f hf', hrelative g hg', heq.2]
      _ = g.path := rfl
  have hfiles : files.toFinset = filesUnder w.root d := by
    ext q
    rw [List.mem_toFinset, List.mem_map, mem_filesUnder_iff]
    constructor
    · rintro ⟨f, hf, rfl⟩
      obtain ⟨hf, hheld⟩ := List.mem_filter.mp hf
      exact ⟨Path.isUnder_iff.mpr ⟨f.path, hrelative f hf, rfl⟩,
        (hholds f hf).mp hheld⟩
    · rintro ⟨hunder, p, hp, hpath⟩
      obtain ⟨r, hr, rfl⟩ := Path.isUnder_iff.mp hunder
      have hne : r.parts ≠ [] := fun hnil => hroot p hp <| by
        rw [hpath, Path.append_of_relative hr, hnil, List.append_nil]
      obtain ⟨f, hf, rfl⟩ := List.mem_map.mp
        ((hpaths r).mpr ⟨hr, hne, d, hd, p, hp, hpath⟩)
      exact ⟨f, List.mem_filter.mpr ⟨hf, (hholds f hf).mpr ⟨p, hp, hpath⟩⟩,
        rfl⟩
  calc (w.walk.filter holds).length = files.length := (List.length_map _).symm
    _ = files.toFinset.card := (List.toFinset_card_of_nodup hnodup).symm
    _ = (filesUnder w.root d).card := by rw [hfiles]

/-- **A definition is listed exactly if some file of the workspace holds
it.** Let a folder be an absolute path in normal form, and let every place
have a path other than the folder. Then there are a workspace and a
listing. The definitions in the listing and in the files stand for
positions in the list that was given: a file holds the positions with a
place in it; the listing has the positions that some file holds, each of
them once; and the files together hold a position as often as it has
different files in the folder. -/
theorem select_agrees_with_build (current : Path) {root : Path}
    (habsolute : root.isAbsolute) (hnormal : root.normalized = root)
    {ds : List Definition}
    (hplaces : ∀ d ∈ ds, ∀ p ∈ d.defines,
      ∃ q, Location.toPath p.file = .ok q ∧ q ≠ root) :
    ∃ (w : Workspace) (listed : List (Fin ds.length))
      (held : SourceFile → List (Fin ds.length)),
      build current root ds = .ok w ∧
      selectUnder root ds = .ok (listed.map ds.get) ∧
      (∀ f ∈ w.walk, f.definitions = (held f).map ds.get ∧
        ∀ i, i ∈ held f ↔ ∃ p ∈ (ds.get i).defines,
          Location.toPath p.file = .ok (root.append f.path)) ∧
      (∀ i, i ∈ listed ↔ ∃ f ∈ w.walk, i ∈ held f) ∧
      listed.Nodup ∧
      ∀ i, (w.walk.flatMap held).count i =
        (filesUnder root (ds.get i)).card := by
  have hresolvable : ∀ d ∈ ds, Workspace.Resolvable d := fun d hd p hp =>
    (hplaces d hd p hp).imp fun q hq => hq.1
  obtain ⟨w, hw⟩ := Workspace.exists_build current root hresolvable
  have hroot : w.root = root := by
    rw [Workspace.root_of_build hw, Path.resolvedIn, Path.append,
      if_pos habsolute, hnormal]
  obtain ⟨out, hout⟩ : ∃ out, selectUnder root ds = .ok out := by
    cases hselect : selectUnder root ds with
    | ok out => exact ⟨out, rfl⟩
    | error f =>
      obtain ⟨g, hg⟩ :=
        exists_load_of_selectUnder (.empty current root) hselect
      exact absurd (hw.symm.trans hg) (by simp)
  obtain ⟨listed, rfl, hnodup, hlisted, -⟩ :=
    exists_positions_of_selectUnder hout
  choose! held hdefs hheldNodup hheld using
    fun f hf => exists_positions_of_mem_walk hw (f := f) hf
  rw [hroot] at hheld
  have hcount : ∀ i, (w.walk.flatMap held).count i =
      (filesUnder root (ds.get i)).card := by
    intro i
    have hi := List.get_mem ds i
    rw [count_flatMap_of_nodup hheldNodup, ← hroot]
    refine length_filter_walk hw hi (fun p hp => ?_) fun f hf => ?_
    · obtain ⟨q, hq, hne⟩ := hplaces _ hi p hp
      rw [hq, hroot]
      exact fun heq => hne (Except.ok.inj heq)
    · rw [decide_eq_true_iff, hheld f hf, hroot]
  refine ⟨w, listed, held, hw, hout, fun f hf => ⟨hdefs f hf, hheld f hf⟩,
    fun i => ?_, hnodup, hcount⟩
  rw [hlisted, hasPlaceUnder_iff]
  calc (∃ q, q ∈ filesUnder root (ds.get i)) ↔
      0 < (filesUnder root (ds.get i)).card := Finset.card_pos.symm
    _ ↔ 0 < (w.walk.flatMap held).count i := by rw [hcount]
    _ ↔ i ∈ w.walk.flatMap held := List.count_pos_iff
    _ ↔ ∃ f ∈ w.walk, i ∈ held f := List.mem_flatMap

/-- The library has two files with the first definition in its folder, and
none with the last one. -/
theorem select_agrees_with_build_sampleLibrary :
    (Path.ofText "/w/lib").isAbsolute ∧
      (Path.ofText "/w/lib").normalized = .ofText "/w/lib" ∧
      (∀ d ∈ Workspace.sampleLibrary, ∀ p ∈ d.defines,
        ∃ q, Location.toPath p.file = .ok q ∧ q ≠ .ofText "/w/lib") ∧
      ∃ (w : Workspace) (held : SourceFile → List (Fin 4)),
        build .here (.ofText "/w/lib") Workspace.sampleLibrary = .ok w ∧
        (w.walk.flatMap held).count 0 = 2 ∧
        (w.walk.flatMap held).count 3 = 0 := by
  have hplaces : ∀ d ∈ Workspace.sampleLibrary, ∀ p ∈ d.defines,
      ∃ q, Location.toPath p.file = .ok q ∧ q ≠ .ofText "/w/lib" := by
    have hany : ∀ d ∈ Workspace.sampleLibrary, ∀ p ∈ d.defines,
        (Location.toPath p.file).toOption.any
          (· ≠ .ofText "/w/lib") := by
      decide +kernel
    simpa only [Option.any_eq_true, decide_eq_true_iff,
      Location.toOption_toPath_eq_some_iff] using hany
  have habsolute : (Path.ofText "/w/lib").isAbsolute := by decide +kernel
  have hnormal : (Path.ofText "/w/lib").normalized =
      .ofText "/w/lib" := by decide +kernel
  have hfiles : filesUnder (.ofText "/w/lib")
      (Workspace.sampleLibrary.get (0 : Fin 4)) =
        ([⟨.single, ["w", "lib", "renoise", "song.lua"]⟩,
          ⟨.single, ["w", "lib", "renoise.lua"]⟩] : List Path).toFinset :=
    congrArg List.toFinset (by decide +kernel)
  obtain ⟨w, -, held, hw, -, -, -, -, hcount⟩ :=
    select_agrees_with_build .here habsolute hnormal hplaces
  refine ⟨habsolute, hnormal, hplaces, w, held, hw, ?_, ?_⟩
  · refine (hcount (0 : Fin 4)).trans ?_
    rw [hfiles]
    decide
  · refine (hcount (3 : Fin 4)).trans ?_
    decide +kernel

end ApiBook
