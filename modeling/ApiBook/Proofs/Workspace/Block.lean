/-
The files of a workspace as parts of a listing.

* `standsIn`: whether a definition has a place in a file;
* `OncePlaced`: every definition has one place, and places with the same
  path are written in the same way;
* `filter_positions_eq`: then the positions in a listing that stand in a
  file are those of the file, in the same order;
* `blocks_of_select`: **a file of a workspace is a block of the listing**:
  its definitions follow each other there, in the order of the file.
-/
import ApiBook.Proofs.Workspace.Agreement

namespace ApiBook

open Record (Define Definition)
open Workspace (Resolvable build firstStart? placed placesOf)

/-! ### Definitions with one place -/

/-- Whether a definition has a place in a file. -/
def standsIn (target : Path) (d : Definition) : Bool :=
  d.defines.any fun p => Location.toPath p.file = .ok target

/-- Every definition has one place, every place has a path, and places with
the same path are written in the same way. -/
structure OncePlaced (ds : List Definition) : Prop where
  single : ∀ d ∈ ds, d.defines.length = 1
  resolvable : ∀ d ∈ ds, Resolvable d
  spelled : ∀ p ∈ placesOf ds, ∀ q ∈ placesOf ds, ∀ path,
    Location.toPath p.file = .ok path →
    Location.toPath q.file = .ok path → p.file = q.file

variable {ds : List Definition} {target : Path} {uri : String}

/-- A definition has a place in a file if one of its places has that
path. -/
lemma standsIn_iff {d : Definition} :
    standsIn target d ↔
      ∃ p ∈ d.defines, Location.toPath p.file = .ok target := by
  simp only [standsIn, List.any_eq_true, decide_eq_true_iff]

/-- A definition with one place is listed by that. -/
lemma listingKey_of_single {d : Definition} {p : Define}
    (h : d.defines = [p]) : listingKey d = (p.file, p.span.start) := by
  rw [listingKey, Definition.location?, Definition.primary?, h]
  rfl

namespace OncePlaced

/-- The place of a definition. -/
lemma exists_single (h : OncePlaced ds) {d : Definition} (hd : d ∈ ds) :
    ∃ p, d.defines = [p] ∧ p ∈ placesOf ds := by
  obtain ⟨p, hp⟩ := List.length_eq_one_iff.mp (h.single d hd)
  refine ⟨p, hp, List.mem_flatMap.mpr ⟨d, hd, ?_⟩⟩
  rw [hp]
  exact List.mem_singleton_self p

/-- The definitions with a place in a file are those that are listed by
it, under the one name that the file has there. -/
lemma standsIn_iff_listingKey (h : OncePlaced ds) {p₀ : Define}
    (hp₀ : p₀ ∈ placesOf ds) (hpath : Location.toPath p₀.file = .ok target)
    {d : Definition} (hd : d ∈ ds) :
    standsIn target d ↔ (listingKey d).1 = p₀.file := by
  obtain ⟨p, hp, hmem⟩ := h.exists_single hd
  rw [standsIn_iff, listingKey_of_single hp, hp]
  constructor
  · rintro ⟨q, hq, hqpath⟩
    obtain rfl := List.mem_singleton.mp hq
    exact h.spelled q hmem p₀ hp₀ target hqpath hpath
  · intro hfile
    exact ⟨p, List.mem_singleton_self p, (congrArg _ hfile).trans hpath⟩

/-- A definition that begins in a file is listed by the name of the file
and the offset where it begins. -/
lemma listingRank_of_mem_firstStart? (h : OncePlaced ds) {p₀ : Define}
    (hp₀ : p₀ ∈ placesOf ds) (hpath : Location.toPath p₀.file = .ok target)
    {d : Definition} (hd : d ∈ ds) {n : ℕ} (hn : n ∈ firstStart? target d) :
    listingRank d = toLex (codePoints p₀.file, n) := by
  obtain ⟨p, hp, -⟩ := h.exists_single hd
  have hstands : standsIn target d :=
    standsIn_iff.mpr (Workspace.isSome_firstStart?_iff.mp
      (Option.isSome_iff_exists.mpr ⟨n, hn⟩))
  have hfile := (h.standsIn_iff_listingKey hp₀ hpath hd).mp hstands
  have hstart : p.span.start = n := by
    obtain ⟨q, hq, hqn⟩ := Option.map_eq_some_iff.mp hn
    rw [hp] at hq
    rwa [List.mem_singleton.mp (List.mem_of_find?_eq_some hq)] at hqn
  rw [listingRank, hfile, listingKey_of_single hp, hstart]

end OncePlaced

/-! ### Positions -/

/-- The positions of a listing that stand in a file are the positions of
the file. Both are in the order of the offsets, and then of the list that
was given. -/
lemma filter_positions_eq (h : OncePlaced ds) {p₀ : Define}
    (hp₀ : p₀ ∈ placesOf ds) (hpath : Location.toPath p₀.file = .ok target)
    {is js : List (Fin ds.length)}
    (his : is.Pairwise fun i j =>
      listingRank (ds.get i) ≤ listingRank (ds.get j) ∧
        (listingRank (ds.get i) = listingRank (ds.get j) → i < j))
    (hjs : js.Pairwise fun i j => ∀ a ∈ firstStart? target (ds.get i),
      ∀ b ∈ firstStart? target (ds.get j), toLex (a, i) < toLex (b, j))
    (hmem : ∀ i, i ∈ js ↔ standsIn target (ds.get i))
    (hall : ∀ i, standsIn target (ds.get i) → i ∈ is) :
    is.filter (fun i => standsIn target (ds.get i)) = js := by
  let before (i j : Fin ds.length) : Prop :=
    toLex (listingRank (ds.get i), i) < toLex (listingRank (ds.get j), j)
  have hirrefl : Std.Irrefl before := ⟨fun i => lt_irrefl _⟩
  have hasymm : Std.Antisymm before :=
    ⟨fun i j hij hji => absurd hji hij.not_gt⟩
  have hlisted : (is.filter fun i => standsIn target (ds.get i)).Pairwise
      before := by
    refine (his.imp fun {i j} hij => ?_).filter _
    exact Prod.Lex.toLex_lt_toLex.mpr
      (hij.1.lt_or_eq.imp_right fun heq => ⟨heq, hij.2 heq⟩)
  have hfile : js.Pairwise before := by
    refine hjs.imp_of_mem fun {i j} hi hj hij => ?_
    obtain ⟨a, ha⟩ := Option.isSome_iff_exists.mp
      (Workspace.isSome_firstStart?_iff.mpr (standsIn_iff.mp ((hmem i).mp hi)))
    obtain ⟨b, hb⟩ := Option.isSome_iff_exists.mp
      (Workspace.isSome_firstStart?_iff.mpr (standsIn_iff.mp ((hmem j).mp hj)))
    -- in one file the offset decides
    have hi' := h.listingRank_of_mem_firstStart? hp₀ hpath
      (List.get_mem ds i) ha
    have hj' := h.listingRank_of_mem_firstStart? hp₀ hpath
      (List.get_mem ds j) hb
    show toLex (listingRank (ds.get i), i) < toLex (listingRank (ds.get j), j)
    rw [hi', hj', Prod.Lex.toLex_lt_toLex]
    rcases Prod.Lex.toLex_lt_toLex.mp (hij a ha b hb) with hlt | ⟨heq, hlt⟩
    · exact Or.inl (Prod.Lex.toLex_lt_toLex.mpr (Or.inr ⟨rfl, hlt⟩))
    · exact Or.inr ⟨by rw [show a = b from heq], hlt⟩
  refine hlisted.eq_of_mem_iff hfile fun i => ?_
  rw [List.mem_filter, hmem]
  exact ⟨fun hi => hi.2, fun hi => ⟨hall i hi, hi⟩⟩

/-! ### Blocks -/

variable {current folder root : Path} {w : Workspace}
  {listed : List Definition}

/-- The folder of a workspace is the one that it is filled for, if that is
an absolute path in normal form. -/
lemma root_of_build_of_normalized (habsolute : root.isAbsolute)
    (hnormal : root.normalized = root) (hw : build current root ds = .ok w) :
    w.root = root := by
  rw [Workspace.root_of_build hw, Path.resolvedIn, Path.append,
    if_pos habsolute, hnormal]

/-- Where there is a workspace, there is a listing. -/
lemma exists_selectUnder_of_build (hw : build current folder ds = .ok w)
    (root : Path) : ∃ listed, selectUnder root ds = .ok listed := by
  cases hselect : selectUnder root ds with
  | ok listed => exact ⟨listed, rfl⟩
  | error f =>
    obtain ⟨g, hg⟩ :=
      exists_load_of_selectUnder (.empty current folder) hselect
    exact absurd (hw.symm.trans hg) (by simp)

/-- What is listed is a definition of the list. -/
lemma mem_of_mem_selectUnder (hlisted : selectUnder root ds = .ok listed)
    {d : Definition} (hd : d ∈ listed) : d ∈ ds :=
  List.mem_of_mem_filter ((perm_filter_of_selectUnder hlisted).subset hd)

/-- A listing is in the order of the files. -/
lemma pairwise_file_of_selectUnder
    (hlisted : selectUnder root ds = .ok listed) :
    listed.Pairwise fun d e =>
      codePoints (listingKey d).1 ≤ codePoints (listingKey e).1 := by
  obtain ⟨is, rfl, -, -, hsorted⟩ := exists_positions_of_selectUnder hlisted
  refine List.pairwise_map.mpr (hsorted.imp fun hle => ?_)
  exact Prod.Lex.monotone_fst _ _ hle.1

/-- Those of the definitions in a listing that stand in a file of the
workspace are the definitions of the file. -/
lemma filter_standsIn_eq (h : OncePlaced ds)
    (hw : build current folder ds = .ok w)
    (hlisted : selectUnder w.root ds = .ok listed) {f : SourceFile}
    (hf : f ∈ w.walk) {p₀ : Define} (hp₀ : p₀ ∈ placesOf ds)
    (hpath : Location.toPath p₀.file = .ok (w.root.append f.path)) :
    listed.filter (standsIn (w.root.append f.path)) = f.definitions := by
  obtain ⟨is, his, -, hmem, hsorted⟩ :=
    exists_positions_of_selectUnder hlisted
  obtain ⟨js, hjs, hmem', hsorted'⟩ := Workspace.byOffset_filterMap
    (firstStart? (w.root.append f.path)) ds
  have hstands : ∀ i, i ∈ js ↔
      standsIn (w.root.append f.path) (ds.get i) := by
    intro i
    rw [hmem', Workspace.isSome_firstStart?_iff, standsIn_iff]
  have hall : ∀ i, standsIn (w.root.append f.path) (ds.get i) → i ∈ is := by
    intro i hi
    obtain ⟨p, hp, hppath⟩ := standsIn_iff.mp hi
    have hrelative : f.path.root = .relative :=
      ((Workspace.mem_map_path_walk hw).mp (List.mem_map_of_mem hf)).1
    have hunder : w.root.isUnder (w.root.append f.path) :=
      Path.isUnder_iff.mpr ⟨f.path, hrelative, rfl⟩
    exact (hmem i).mpr (hasPlaceUnder_iff.mpr
      ⟨_, mem_filesUnder_iff.mpr ⟨hunder, p, hp, hppath⟩⟩)
  calc listed.filter (standsIn (w.root.append f.path))
      = (is.filter fun i =>
          standsIn (w.root.append f.path) (ds.get i)).map ds.get := by
        rw [his, List.filter_map]
        rfl
    _ = js.map ds.get := by
        rw [filter_positions_eq h hp₀ hpath hsorted hsorted' hstands hall]
    _ = f.definitions := by
        rw [Workspace.definitions_of_mem_walk hw hf, hjs]

/-- **A file of a workspace is a block of the listing.** Let a folder be an
absolute path in normal form, let every definition have one place, with a
path, and let places with the same path be written in the same way. Then
there are a workspace and a listing. Those of the definitions in the
listing that stand in a file of the workspace are the definitions of the
file, in the same order; and they follow each other in the listing, with
none of them before or after. -/
theorem blocks_of_select (current : Path) {root : Path}
    (habsolute : root.isAbsolute) (hnormal : root.normalized = root)
    {ds : List Definition} (h : OncePlaced ds) :
    ∃ w listed, build current root ds = .ok w ∧
      selectUnder root ds = .ok listed ∧
      ∀ f ∈ w.walk,
        listed.filter (standsIn (root.append f.path)) = f.definitions ∧
        ∃ before after, listed = before ++ f.definitions ++ after ∧
          ∀ d ∈ before ++ after, ¬ standsIn (root.append f.path) d := by
  obtain ⟨w, hw⟩ := Workspace.exists_build current root h.resolvable
  obtain ⟨listed, hlisted⟩ := exists_selectUnder_of_build hw root
  have hroot := root_of_build_of_normalized habsolute hnormal hw
  refine ⟨w, listed, hw, hlisted, fun f hf => ?_⟩
  -- the file is there for some place, which says how it is written
  obtain ⟨-, -, d₀, hd₀, p₀, hpd₀, hpath⟩ :=
    (Workspace.mem_map_path_walk hw).mp (List.mem_map_of_mem hf)
  have hp₀ : p₀ ∈ placesOf ds := List.mem_flatMap.mpr ⟨d₀, hd₀, hpd₀⟩
  rw [← hroot] at hlisted ⊢
  have hfilter := filter_standsIn_eq h hw hlisted hf hp₀ hpath
  have hnames : ∀ d ∈ listed, standsIn (w.root.append f.path) d ↔
      codePoints (listingKey d).1 = codePoints p₀.file := by
    intro d hd
    rw [codePoints_strictMono.injective.eq_iff]
    exact h.standsIn_iff_listingKey hp₀ hpath
      (mem_of_mem_selectUnder hlisted hd)
  have hblock := Order.exists_block (fun d => codePoints (listingKey d).1)
    (pairwise_file_of_selectUnder hlisted) (codePoints p₀.file) hnames
  rw [hfilter] at hblock
  exact ⟨hfilter, hblock⟩

/-- A library with two files in turns, one of them with two definitions at
one place, and a place outside of it. -/
def alternatingLibrary : List Definition := [
  placed "b.late" [("file:///w/lib/b%20.lua", 7)],
  placed "a" [("file:///w/lib/a.lua", 5)],
  placed "b.early" [("file:///w/lib/b%20.lua", 3)],
  placed "print" [("file:///usr/print.lua", 1)],
  placed "b.again" [("file:///w/lib/b%20.lua", 7)]]

/-- The second file of the library is a block of its listing. -/
theorem blocks_of_select_alternatingLibrary :
    (Path.ofText "/w/lib").isAbsolute ∧
      (Path.ofText "/w/lib").normalized = .ofText "/w/lib" ∧
      OncePlaced alternatingLibrary ∧
      ∃ w listed, build .here (.ofText "/w/lib") alternatingLibrary =
          .ok w ∧
        selectUnder (.ofText "/w/lib") alternatingLibrary = .ok listed ∧
        ∃ f ∈ w.walk, f.path = ⟨.relative, ["b .lua"]⟩ ∧
          f.definitions <:+: listed := by
  have hroot : (Path.ofText "/w/lib").isAbsolute ∧
      (Path.ofText "/w/lib").normalized = .ofText "/w/lib" := by
    decide +kernel
  have hspelled : ∀ p ∈ placesOf alternatingLibrary,
      ∀ q ∈ placesOf alternatingLibrary,
        Location.toPath p.file = Location.toPath q.file →
          p.file = q.file := by decide +kernel
  have hplaced : OncePlaced alternatingLibrary :=
    { single := by simp [alternatingLibrary, placed]
      resolvable := by decide +kernel
      spelled := fun p hp q hq path hpath hqpath =>
        hspelled p hp q hq (hpath.trans hqpath.symm) }
  obtain ⟨w, listed, hw, hlisted, hblocks⟩ :=
    blocks_of_select .here hroot.1 hroot.2 hplaced
  have hfile : ⟨.relative, ["b .lua"]⟩ ∈ w.walk.map (·.path) := by
    rw [Workspace.mem_map_path_walk hw,
      root_of_build_of_normalized hroot.1 hroot.2 hw]
    exact ⟨rfl, by simp, by decide +kernel⟩
  obtain ⟨f, hf, hpath⟩ := List.mem_map.mp hfile
  obtain ⟨-, before, after, hblock, -⟩ := hblocks f hf
  exact ⟨hroot.1, hroot.2, hplaced, w, listed, hw, hlisted, f, hf, hpath,
    before, after, hblock.symm⟩

end ApiBook
