/-
The order of a listing.

* `listingRank`: the code points of the file and the offset that a
  definition is listed by; `listedBefore_eq`: a listing is in the order of
  the ranks;
* `exists_positions_of_selectUnder`: a listing takes in each position in
  the list at most once, by rank and then by position;
* `selectUnder_of_selectUnder`: a listing that is listed again stays as it
  is;
* `listing_of_select`: **a listing is a stable selection**: it holds the
  definitions with a place in the folder, in the order of their first
  places.
-/
import ApiBook.Proofs.Order.StableSort
import ApiBook.Proofs.Text.Ordered
import ApiBook.Proofs.Workspace.Selection

namespace ApiBook

open Record (Define Definition)
open Workspace (fault? placed)

/-! ### Ranks -/

/-- The code points of a text. -/
def codePoints (t : Text) : List ℕ := t.toList.map Code.toNat

/-- Texts are compared by their code points. -/
lemma codePoints_strictMono : StrictMono codePoints := by
  intro s t h
  exact List.map_lt (fun _ _ hlt => hlt) (Text.lt_iff_toList_lt.mp h)

/-- What a definition is listed by: the code points of the file of its
first place, and its offset. -/
def listingRank (d : Definition) : List ℕ ×ₗ ℕ :=
  toLex (codePoints (listingKey d).1, (listingKey d).2)

/-- A listing is in the order of the ranks. -/
lemma listedBefore_eq (d e : Definition) :
    listedBefore d e = decide (listingRank d ≤ listingRank e) := by
  rw [Bool.eq_iff_iff, decide_eq_true_iff, listedBefore, listingRank,
    listingRank, Prod.Lex.toLex_le_toLex, codePoints_strictMono.lt_iff_lt,
    codePoints_strictMono.injective.eq_iff]
  by_cases hfile : (listingKey d).1 = (listingKey e).1
  · simp [hfile]
  · simp [hfile]

variable {root : Path}

/-! ### Definitions with a place in the folder -/

/-- A location names a path if that is what comes of it. -/
lemma Location.toOption_toPath_eq_some_iff {uri : Text} {q : Path} :
    (toPath uri).toOption = some q ↔ toPath uri = .ok q := by
  cases toPath uri <;> simp [Except.toOption]

/-- A definition has a place in a folder if the path of one of its places
starts as the folder does and has the components of the folder in
front. -/
lemma hasPlaceUnder_iff_prefix {d : Definition} :
    hasPlaceUnder root d ↔ ∃ p ∈ d.defines, ∃ q,
      Location.toPath p.file = .ok q ∧ q.root = root.root ∧
        root.parts <+: q.parts := by
  simp only [hasPlaceUnder, List.any_eq_true, liesUnder, Option.any_eq_true,
    Location.toOption_toPath_eq_some_iff, Path.isUnder_iff_prefix]

/-- A definition with a place in a folder has a first place, and is listed
by that. -/
lemma exists_primary_of_hasPlaceUnder {d : Definition}
    (h : hasPlaceUnder root d) :
    ∃ p, d.primary? = some p ∧
      listingRank d = toLex (codePoints p.file, p.span.start) := by
  obtain ⟨p, hp, -⟩ := List.any_eq_true.mp h
  obtain ⟨first, rest, hdefines⟩ :=
    List.exists_cons_of_ne_nil (List.ne_nil_of_mem hp)
  have hprimary : d.primary? = some first := by
    rw [Definition.primary?, hdefines, List.head?_cons]
  refine ⟨first, hprimary, ?_⟩
  rw [listingRank, listingKey, Definition.location?, hprimary,
    Option.map_some, Option.getD_some]

/-! ### Listings -/

variable {ds listed : List Definition}

/-- A listing holds one definition for every position in the list that has
a place in the folder, by rank, and by position where ranks are equal. -/
lemma exists_positions_of_selectUnder (h : selectUnder root ds = .ok listed) :
    ∃ is : List (Fin ds.length), listed = is.map ds.get ∧ is.Nodup ∧
      (∀ i, i ∈ is ↔ hasPlaceUnder root (ds.get i)) ∧
      is.Pairwise fun i j => listingRank (ds.get i) ≤ listingRank (ds.get j) ∧
        (listingRank (ds.get i) = listingRank (ds.get j) → i < j) := by
  -- the positions in place of the definitions
  let chosen : List (Fin ds.length) :=
    (List.finRange ds.length).filter (hasPlaceUnder root ∘ ds.get)
  let rank : Fin ds.length → List ℕ ×ₗ ℕ := fun i => listingRank (ds.get i)
  have hchosen : ds.filter (hasPlaceUnder root) = chosen.map ds.get := by
    conv_lhs => rw [← List.map_get_finRange ds]
    rw [List.filter_map]
  have hperm := List.mergeSort_perm chosen fun i j => rank i ≤ rank j
  have hincreasing : chosen.Pairwise (· < ·) :=
    (List.pairwise_lt_finRange ds.length).filter _
  refine ⟨_, ?_, ?_, fun i => ?_,
    Order.pairwise_mergeSort_key rank hincreasing⟩
  · rw [eq_mergeSort_of_selectUnder h, hchosen]
    exact (List.map_mergeSort (f := ds.get) (s := listedBefore)
      fun i _ j _ => (listedBefore_eq (ds.get i) (ds.get j)).symm).symm
  · exact hperm.nodup_iff.mpr ((List.nodup_finRange _).filter _)
  · rw [hperm.mem_iff, List.mem_filter, Function.comp_apply]
    exact and_iff_right (List.mem_finRange i)

/-- A listing holds the definitions with a place in the folder. -/
lemma perm_filter_of_selectUnder (h : selectUnder root ds = .ok listed) :
    listed.Perm (ds.filter (hasPlaceUnder root)) := by
  rw [eq_mergeSort_of_selectUnder h]
  exact List.mergeSort_perm _ _

/-- What is listed has a place in the folder. -/
lemma hasPlaceUnder_of_mem_selectUnder
    (h : selectUnder root ds = .ok listed) {d : Definition}
    (hd : d ∈ listed) : hasPlaceUnder root d :=
  (List.mem_filter.mp ((perm_filter_of_selectUnder h).subset hd)).2

/-- A listing that is listed again stays as it is. -/
lemma selectUnder_of_selectUnder (h : selectUnder root ds = .ok listed) :
    selectUnder root listed = .ok listed := by
  -- the places that are looked at again were looked at before
  have hsubset : (listed.flatMap fun d => seenUnder root d.defines) ⊆
      ds.flatMap fun d => seenUnder root d.defines := by
    intro p hp
    obtain ⟨d, hd, hp⟩ := List.mem_flatMap.mp hp
    exact List.mem_flatMap.mpr ⟨d,
      List.mem_of_mem_filter ((perm_filter_of_selectUnder h).subset hd), hp⟩
  obtain ⟨again, hagain⟩ : ∃ again, selectUnder root listed = .ok again := by
    have hfault := Workspace.fault?_eq_none_iff.mpr ⟨listed, h⟩
    rw [fault?_selectUnder, List.findSome?_eq_none_iff] at hfault
    rw [← Workspace.fault?_eq_none_iff, fault?_selectUnder,
      List.findSome?_eq_none_iff]
    exact fun p hp => hfault p (hsubset hp)
  have hall : listed.filter (hasPlaceUnder root) = listed :=
    List.filter_eq_self.mpr fun d hd => hasPlaceUnder_of_mem_selectUnder h hd
  have hsorted : listed.Pairwise fun d e => listedBefore d e := by
    obtain ⟨is, rfl, -, -, his⟩ := exists_positions_of_selectUnder h
    refine List.pairwise_map.mpr (his.imp fun hle => ?_)
    rw [listedBefore_eq]
    exact decide_eq_true hle.1
  rw [hagain, eq_mergeSort_of_selectUnder hagain, hall,
    List.mergeSort_of_pairwise hsorted]

/-- **A listing is a stable selection.** What a listing holds, if it does
not fail, are the definitions with a place in the folder: with one whose
path starts as the folder does and has the components of the folder in
front. It holds each as often as the list does, for the positions where it
stands, in the order of the code points of the file of its first place and
then of the offset there, and among equal ones in the order of the list.
Whatever is listed has a first place, and is listed by that. A listing that
is listed again stays as it is. -/
theorem listing_of_select (h : selectUnder root ds = .ok listed) :
    (∀ d, hasPlaceUnder root d ↔ ∃ p ∈ d.defines, ∃ q,
      Location.toPath p.file = .ok q ∧ q.root = root.root ∧
        root.parts <+: q.parts) ∧
    listed.Perm (ds.filter (hasPlaceUnder root)) ∧
    (∃ is : List (Fin ds.length), listed = is.map ds.get ∧ is.Nodup ∧
      (∀ i, i ∈ is ↔ hasPlaceUnder root (ds.get i)) ∧
      is.Pairwise fun i j => listingRank (ds.get i) ≤ listingRank (ds.get j) ∧
        (listingRank (ds.get i) = listingRank (ds.get j) → i < j)) ∧
    (∀ d ∈ listed, ∃ p, d.primary? = some p ∧
      listingRank d = toLex (codePoints p.file, p.span.start)) ∧
    selectUnder root listed = .ok listed :=
  ⟨fun _ => hasPlaceUnder_iff_prefix, perm_filter_of_selectUnder h,
    exists_positions_of_selectUnder h, fun _ hd =>
      exists_primary_of_hasPlaceUnder (hasPlaceUnder_of_mem_selectUnder h hd),
    selectUnder_of_selectUnder h⟩

/-- A library with two definitions at one place, one whose first place does
not lie in the folder, and one in a folder that only begins like it. -/
def tiedLibrary : List Definition := [
  placed "b" [("file:///w/lib/b.lua", 3)],
  placed "c" [("file:///usr/c.lua", 8), ("file:///w/lib/a.lua", 1)],
  placed "d" [("file:///w/lib2/d.lua", 0)],
  placed "a" [("file:///w/lib/b.lua", 3)]]

/-- The listing of the library: the definition with another first place
comes first, and the two at one place stay in order. -/
theorem listing_of_select_tiedLibrary :
    selectUnder (.ofText "/w/lib") tiedLibrary =
        .ok [tiedLibrary[1], tiedLibrary[0], tiedLibrary[3]] ∧
      selectUnder (.ofText "/w/lib")
          [tiedLibrary[1], tiedLibrary[0], tiedLibrary[3]] =
        .ok [tiedLibrary[1], tiedLibrary[0], tiedLibrary[3]] := by
  have hkept : keptUnder (.ofText "/w/lib") tiedLibrary =
      .ok [tiedLibrary[0], tiedLibrary[1], tiedLibrary[3]] := by
    decide +kernel
  have hlisted : selectUnder (.ofText "/w/lib") tiedLibrary =
      .ok [tiedLibrary[1], tiedLibrary[0], tiedLibrary[3]] := by
    have hcb : listedBefore tiedLibrary[0] tiedLibrary[1] = false := by
      decide +kernel
    have hba : listedBefore tiedLibrary[0] tiedLibrary[3] := by
      decide +kernel
    have hca : listedBefore tiedLibrary[1] tiedLibrary[3] := by
      decide +kernel
    rw [selectUnder, hkept]
    simp [List.mergeSort, hcb, hba, hca, bind, Except.bind, pure, Except.pure]
  obtain ⟨-, -, -, -, hagain⟩ := listing_of_select hlisted
  exact ⟨hlisted, hagain⟩

end ApiBook
