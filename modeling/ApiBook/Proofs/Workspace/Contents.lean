/-
What a workspace holds: every file once, and in every file the
definitions that have a place in it.

* `byOffset_filterMap`: definitions in the order of their offsets, those
  with equal offsets as they came;
* `files_of_build`: **no loss and no repetition**: the files of a filled
  workspace are those of the places below its folder, and each holds the
  definitions with a place in it, by the offset of their first place
  there.
-/
import ApiBook.Proofs.Order.StableSort
import ApiBook.Proofs.Workspace.Grouping
import Mathlib.Data.List.FinRange

namespace ApiBook.Workspace

open Record (Definition)

/-- Definitions that begin at offsets, put in the order of the offsets:
one for every place in the list whose definition has an offset, and those
with equal offsets as they came. -/
lemma byOffset_filterMap (start? : Definition → Option ℕ)
    (ds : List Definition) :
    ∃ is : List (Fin ds.length),
      SourceFile.byOffset
        (ds.filterMap fun d => (start? d).map fun n => (n, d)) =
          is.map ds.get ∧
      (∀ i, i ∈ is ↔ (start? (ds.get i)).isSome) ∧
      is.Pairwise fun i j => ∀ a ∈ start? (ds.get i),
        ∀ b ∈ start? (ds.get j), toLex (a, i) < toLex (b, j) := by
  -- the places in the list in place of the definitions
  let entries : List (ℕ × Fin ds.length) :=
    (List.finRange ds.length).filterMap fun i =>
      (start? (ds.get i)).map fun n => (n, i)
  have hmem : ∀ x, x ∈ entries ↔ start? (ds.get x.2) = some x.1 := by
    rintro ⟨n, i⟩
    simp [entries, List.mem_filterMap]
  have hds : (ds.filterMap fun d => (start? d).map fun n => (n, d)) =
      entries.map fun x => (x.1, ds.get x.2) := by
    conv_lhs => rw [← List.map_get_finRange ds]
    rw [List.filterMap_map, List.map_filterMap]
    refine List.filterMap_congr fun i _ => ?_
    rw [Function.comp_apply, Option.map_map]
    rfl
  have hindex : entries.Pairwise fun x y => x.2 < y.2 := by
    refine List.Pairwise.filterMap _ ?_ (List.pairwise_lt_finRange _)
    rintro i j hij x hx y hy
    obtain ⟨n, -, rfl⟩ := Option.map_eq_some_iff.mp hx
    obtain ⟨m, -, rfl⟩ := Option.map_eq_some_iff.mp hy
    exact hij
  have hsorted := Order.pairwise_mergeSort_key Prod.fst hindex
  refine ⟨(entries.mergeSort fun a b => a.1 ≤ b.1).map (·.2), ?_, ?_, ?_⟩
  · rw [SourceFile.byOffset, hds, List.map_map,
      ← List.map_mergeSort (r := fun a b => decide (a.1 ≤ b.1))
        (fun _ _ _ _ => rfl), List.map_map]
    rfl
  · intro i
    rw [Option.isSome_iff_exists]
    simp [hmem]
  · rw [List.pairwise_map]
    refine hsorted.imp_of_mem ?_
    intro x y hx hy ⟨hle, hlt⟩ a ha b hb
    rw [List.mem_mergeSort, hmem] at hx hy
    obtain rfl : a = x.1 := Option.some.inj (ha.symm.trans hx)
    obtain rfl : b = y.1 := Option.some.inj (hb.symm.trans hy)
    rw [Prod.Lex.toLex_lt_toLex]
    rcases hle.lt_or_eq with h | h
    · exact Or.inl h
    · exact Or.inr ⟨h, hlt h⟩

variable {current folder : Path} {ds : List Definition} {w : Workspace}

/-- The paths of the files of a filled workspace. -/
lemma mem_map_path_walk (h : build current folder ds = .ok w) {q : Path} :
    q ∈ w.walk.map (·.path) ↔
      q.root = .relative ∧ q.parts ≠ [] ∧
        ∃ d ∈ ds, ∃ p ∈ d.defines,
          Location.toPath p.file = .ok (w.root.append q) := by
  obtain ⟨rs, hrs, hperm⟩ := walk_perm_grouped h
  rw [List.mem_map, ← mem_pathsOf_iff hrs]
  constructor
  · rintro ⟨f, hf, rfl⟩
    obtain ⟨hroot, hne, hpath, -⟩ := mem_grouped_iff.mp (hperm.mem_iff.mp hf)
    exact ⟨hroot, hne, hpath⟩
  · rintro ⟨hroot, hne, hpath⟩
    exact ⟨.ofEntries q (entriesAt (w.root.append q) rs),
      hperm.mem_iff.mpr (mem_grouped_iff.mpr ⟨hroot, hne, hpath, rfl⟩), rfl⟩

/-- No two files of a filled workspace have the same path. -/
lemma nodup_map_path_walk (h : build current folder ds = .ok w) :
    (w.walk.map (·.path)).Nodup := by
  obtain ⟨rs, -, hperm⟩ := walk_perm_grouped h
  exact (hperm.map _).nodup_iff.mpr (nodup_grouped _ rs)

/-- A file of a filled workspace holds the definitions with a place in
it. -/
lemma definitions_of_mem_walk (h : build current folder ds = .ok w)
    {f : SourceFile} (hf : f ∈ w.walk) :
    f.definitions = SourceFile.byOffset (ds.filterMap fun d =>
      (firstStart? (w.root.append f.path) d).map fun i => (i, d)) := by
  obtain ⟨rs, hrs, hperm⟩ := walk_perm_grouped h
  obtain ⟨-, -, -, heq⟩ := mem_grouped_iff.mp (hperm.mem_iff.mp hf)
  rw [← entriesAt_eq hrs, heq]
  rfl

/-- **No loss and no repetition.** Where every place has a path, the
workspace of a folder is filled; no two of its files have the same path;
the paths are those that lead from the folder strictly down to a place;
and a file holds the definitions with a place in it, one for every
position in the list that was given, by the offset of their first place
in the file, those with equal offsets in the order of the list. -/
theorem files_of_build (current folder : Path) (ds : List Definition)
    (h : ∀ d ∈ ds, Resolvable d) :
    ∃ w, build current folder ds = .ok w ∧
      w.root = Path.resolvedIn current folder ∧
      (w.walk.map (·.path)).Nodup ∧
      (∀ q, q ∈ w.walk.map (·.path) ↔
        q.root = .relative ∧ q.parts ≠ [] ∧
          ∃ d ∈ ds, ∃ p ∈ d.defines,
            Location.toPath p.file = .ok (w.root.append q)) ∧
      ∀ f ∈ w.walk, ∃ is : List (Fin ds.length),
        f.definitions = is.map ds.get ∧
        (∀ i, i ∈ is ↔ ∃ p ∈ (ds.get i).defines,
          Location.toPath p.file = .ok (w.root.append f.path)) ∧
        is.Pairwise fun i j =>
          ∀ a ∈ firstStart? (w.root.append f.path) (ds.get i),
          ∀ b ∈ firstStart? (w.root.append f.path) (ds.get j),
            toLex (a, i) < toLex (b, j) := by
  obtain ⟨w, hw⟩ := exists_build current folder h
  refine ⟨w, hw, root_of_build hw, nodup_map_path_walk hw,
    fun q => mem_map_path_walk hw, fun f hf => ?_⟩
  obtain ⟨is, hdefs, hmem, hsorted⟩ :=
    byOffset_filterMap (firstStart? (w.root.append f.path)) ds
  refine ⟨is, (definitions_of_mem_walk hw hf).trans hdefs, fun i => ?_,
    hsorted⟩
  rw [hmem, isSome_firstStart?_iff]

/-- A definition with places in some files. -/
def placed (name : Text) (places : List (Text × ℕ)) : Definition where
  name := name
  kind := .table
  description := none
  rawDescription := none
  defines := places.map fun p =>
    ⟨⟨p.2, p.2, le_rfl⟩, .setGlobal, p.1, []⟩
  fields := []

/-- A library of three files and one place outside of them: two levels
of files, a path with dots in it, and a definition with two places in
one file. -/
def sampleLibrary : List Definition := [
  placed "renoise.song" [("file:///w/lib/renoise/song.lua", 40),
    ("file:///w/lib/renoise.lua", 9)],
  placed "renoise" [("file:///w/x/../lib/renoise.lua", 30),
    ("file:///w/lib/renoise.lua", 3)],
  placed "midi" [("file:///w/lib/renoise/midi.lua", 5)],
  placed "print" [("file:///usr/print.lua", 1)]]

/-- All places of the library have paths. -/
lemma resolvable_sampleLibrary : ∀ d ∈ sampleLibrary, Resolvable d := by
  decide +kernel

/-- The files of the library are there, each once. -/
theorem files_of_build_sampleLibrary :
    (∀ d ∈ sampleLibrary, Resolvable d) ∧
      ∃ w, build .here (.ofText "/w/lib") sampleLibrary = .ok w ∧
        (w.walk.map (·.path)).Nodup ∧
        ⟨.relative, ["renoise", "midi.lua"]⟩ ∈ w.walk.map (·.path) := by
  obtain ⟨w, hw, hroot, hnodup, hpaths, -⟩ := files_of_build .here
    (.ofText "/w/lib") sampleLibrary resolvable_sampleLibrary
  refine ⟨resolvable_sampleLibrary, w, hw, hnodup,
    (hpaths _).mpr ⟨rfl, by decide, ?_⟩⟩
  rw [hroot]
  decide +kernel

end ApiBook.Workspace
