/-
What the listing of a folder takes in, and which faults it meets.

* `liesUnder`: whether a place lies in a folder; `seenUnder`: the places of
  a definition that are looked at;
* `fault?_selectUnder`: what goes wrong with a listing;
* `eq_mergeSort_of_selectUnder`: what a listing holds;
* `Exposed`: no place without a path stands behind one in the folder;
  `fault?_selectUnder_eq_load`: then what goes wrong with a listing is what
  goes wrong with a workspace;
* `fault_of_select`: **a listing fails for the first fault among the places
  that are looked at**, and so for the fault of a workspace unless places
  without a path stand behind places in the folder;
* `select_hiddenLibrary`: where they do, there may be a listing and no
  workspace.
-/
import ApiBook.Proofs.Workspace.Locations
import ApiBook.Workspace.Selection

namespace ApiBook

open Record (Define Definition)
open Workspace (IsFirstFault Resolvable fault? findSome?_flatMap placed
  placesOf)

/-! ### Places that are looked at -/

/-- Whether a place lies in a folder. A place without a path lies
nowhere. -/
def liesUnder (root : Path) (p : Define) : Bool :=
  (Location.toPath p.file).toOption.any root.isUnder

/-- Those of some places that are looked at: all up to the first that lies
in the folder. -/
def seenUnder (root : Path) (ps : List Define) : List Define :=
  ps.takeWhile (!liesUnder root ·) ++ (ps.find? (liesUnder root)).toList

variable {root : Path}

/-- No place behind one in the folder is looked at. -/
lemma seenUnder_cons (p : Define) (ps : List Define) :
    seenUnder root (p :: ps) =
      if liesUnder root p then [p] else p :: seenUnder root ps := by
  by_cases hp : liesUnder root p
  · simp [seenUnder, hp]
  · simp [seenUnder, hp]

/-- What goes wrong with a search for a place in the folder. -/
lemma fault?_anyUnder (root : Path) (ps : List Define) :
    fault? (anyUnder root ps) = (seenUnder root ps).findSome? fun p =>
      fault? (Location.toPath p.file) := by
  induction ps with
  | nil => rfl
  | cons p ps ih =>
    rw [anyUnder, seenUnder_cons]
    cases hpath : Location.toPath p.file with
    | error f => simp [liesUnder, hpath, Except.toOption, bind, Except.bind]
    | ok path =>
      cases hunder : root.isUnder path with
      | true =>
        simp [liesUnder, hpath, hunder, Except.toOption, bind, Except.bind,
          pure, Except.pure]
      | false =>
        simp [liesUnder, hpath, hunder, Except.toOption, bind, Except.bind,
          ih]

/-- What comes of the search. -/
lemma eq_any_of_anyUnder {ps : List Define} {b : Bool}
    (h : anyUnder root ps = .ok b) : b = ps.any (liesUnder root) := by
  induction ps with
  | nil =>
    rw [List.any_nil]
    exact (Except.ok.inj h).symm
  | cons p ps ih =>
    rw [anyUnder] at h
    cases hpath : Location.toPath p.file with
    | error f => simp [hpath, bind, Except.bind] at h
    | ok path =>
      cases hunder : root.isUnder path with
      | true =>
        simp only [hpath, hunder, bind, Except.bind, if_true] at h
        rw [← Except.ok.inj h]
        simp [liesUnder, hpath, hunder, Except.toOption]
      | false =>
        simp only [hpath, hunder, bind, Except.bind, Bool.false_eq_true,
          if_false] at h
        simp [liesUnder, hpath, hunder, Except.toOption, ih h]

/-! ### Listings -/

/-- Whether a definition has a place in a folder. -/
def hasPlaceUnder (root : Path) (d : Definition) : Bool :=
  d.defines.any (liesUnder root)

/-- What goes wrong with the choice of definitions. -/
lemma fault?_keptUnder (root : Path) (ds : List Definition) :
    fault? (keptUnder root ds) =
      (ds.flatMap fun d => seenUnder root d.defines).findSome? fun p =>
        fault? (Location.toPath p.file) := by
  induction ds with
  | nil => rfl
  | cons d ds ih =>
    rw [keptUnder, definedUnder, List.flatMap_cons, List.findSome?_append,
      ← fault?_anyUnder, ← ih]
    cases anyUnder root d.defines with
    | error f => rfl
    | ok b => cases b <;> cases keptUnder root ds <;> rfl

/-- The definitions that are chosen have a place in the folder. -/
lemma eq_filter_of_keptUnder {ds kept : List Definition}
    (h : keptUnder root ds = .ok kept) :
    kept = ds.filter (hasPlaceUnder root) := by
  induction ds generalizing kept with
  | nil => exact (Except.ok.inj h).symm
  | cons d ds ih =>
    rw [keptUnder, definedUnder] at h
    cases hany : anyUnder root d.defines with
    | error f => simp [hany, bind, Except.bind] at h
    | ok b =>
      cases hrest : keptUnder root ds with
      | error f => cases b <;> simp [hany, hrest, bind, Except.bind] at h
      | ok rest =>
        have hb : hasPlaceUnder root d = b := (eq_any_of_anyUnder hany).symm
        rw [List.filter_cons, hb, ← ih hrest]
        cases b with
        | true =>
          simpa [hany, hrest, bind, Except.bind, pure, Except.pure, eq_comm]
            using h
        | false => simpa [hany, hrest, bind, Except.bind, eq_comm] using h

/-- What goes wrong with a listing is what goes wrong with the first place
that is looked at and has no path. -/
lemma fault?_selectUnder (root : Path) (ds : List Definition) :
    fault? (selectUnder root ds) =
      (ds.flatMap fun d => seenUnder root d.defines).findSome? fun p =>
        fault? (Location.toPath p.file) := by
  rw [← fault?_keptUnder, selectUnder]
  cases keptUnder root ds <;> rfl

/-- A listing holds the definitions with a place in the folder, in
order. -/
lemma eq_mergeSort_of_selectUnder {ds listed : List Definition}
    (h : selectUnder root ds = .ok listed) :
    listed = (ds.filter (hasPlaceUnder root)).mergeSort listedBefore := by
  rw [selectUnder] at h
  cases hkept : keptUnder root ds with
  | error f => simp [hkept, bind, Except.bind] at h
  | ok kept =>
    rw [hkept] at h
    rw [← Except.ok.inj h, eq_filter_of_keptUnder hkept]

/-! ### Listings and workspaces -/

/-- No place without a path stands behind a place in the folder. -/
def Exposed (root : Path) (d : Definition) : Prop :=
  d.defines.Pairwise fun p q =>
    liesUnder root p → ∃ path, Location.toPath q.file = .ok path

instance (root : Path) (d : Definition) : Decidable (Exposed root d) :=
  decidable_of_iff (d.defines.Pairwise fun p q =>
      liesUnder root p → fault? (Location.toPath q.file) = none) <| by
    simp only [Exposed, Workspace.fault?_eq_none_iff]

/-- Where this is so, what goes wrong with the places that are looked at is
what goes wrong with all of them. -/
lemma findSome?_seenUnder {ps : List Define}
    (h : ps.Pairwise fun p q =>
      liesUnder root p → ∃ path, Location.toPath q.file = .ok path) :
    ((seenUnder root ps).findSome? fun p =>
        fault? (Location.toPath p.file)) =
      ps.findSome? fun p => fault? (Location.toPath p.file) := by
  induction ps with
  | nil => rfl
  | cons p ps ih =>
    obtain ⟨hp, hps⟩ := List.pairwise_cons.mp h
    rw [seenUnder_cons]
    split
    next hunder =>
      have hrest : (ps.findSome? fun q =>
          fault? (Location.toPath q.file)) = none :=
        List.findSome?_eq_none_iff.mpr fun q hq =>
          Workspace.fault?_eq_none_iff.mpr (hp q hq hunder)
      rw [List.findSome?_cons, List.findSome?_cons, hrest,
        List.findSome?_nil]
    · rw [List.findSome?_cons, List.findSome?_cons, ih hps]

/-- A listing fails for the first fault among the places that are looked
at. -/
lemma selectUnder_eq_error_iff {ds : List Definition} {f : Location.Fault} :
    selectUnder root ds = .error f ↔
      IsFirstFault (ds.flatMap fun d => seenUnder root d.defines) f := by
  rw [Workspace.isFirstFault_iff, ← fault?_selectUnder,
    Workspace.fault?_eq_some_iff]

/-- The places that are looked at are places of the definitions. -/
lemma seenUnder_subset (root : Path) (ps : List Define) :
    seenUnder root ps ⊆ ps := by
  intro p hp
  rcases List.mem_append.mp hp with hp | hp
  · exact (List.takeWhile_sublist _).subset hp
  · exact List.mem_of_find?_eq_some (Option.mem_toList.mp hp)

/-- Where a listing fails, a workspace is not filled. -/
lemma exists_load_of_selectUnder (w : Workspace) {ds : List Definition}
    {f : Location.Fault} (h : selectUnder root ds = .error f) :
    ∃ g, w.load ds = .error g := by
  obtain ⟨before, p, after, hsplit, hp, -⟩ := selectUnder_eq_error_iff.mp h
  have hmem : p ∈ ds.flatMap fun d => seenUnder root d.defines := by
    rw [hsplit]
    exact List.mem_append_right before List.mem_cons_self
  obtain ⟨d, hd, hpd⟩ := List.mem_flatMap.mp hmem
  refine Workspace.exists_load_eq_error_iff.mpr ⟨d, hd, fun hres => ?_⟩
  obtain ⟨path, hpath⟩ := hres p (seenUnder_subset root _ hpd)
  exact absurd (hp.symm.trans hpath) (by simp)

/-- Where no place without a path stands behind a place in the folder, the
same goes wrong with both. -/
lemma fault?_selectUnder_eq_load (w : Workspace) {ds : List Definition}
    (h : ∀ d ∈ ds, Exposed root d) :
    fault? (selectUnder root ds) = fault? (w.load ds) := by
  rw [fault?_selectUnder, Workspace.fault?_load, placesOf,
    findSome?_flatMap, findSome?_flatMap, ← List.head?_filterMap,
    ← List.head?_filterMap]
  exact congrArg List.head? (List.filterMap_congr fun d hd =>
    findSome?_seenUnder (h d hd))

/-- **A listing fails for the first fault among the places that are looked
at.** A workspace is not filled for the first fault among all places, in
the order of the definitions and then of their places; so it is filled
exactly if all of them have paths. A listing looks at the places of a
definition up to the first that lies in its folder, and fails for the first
fault among those. It never fails where a workspace is filled, and where no
place without a path stands behind a place in the folder it fails for the
same fault, or not at all. A location fails under its own name, or is no
address. -/
theorem fault_of_select (root : Path) (w : Workspace)
    (ds : List Definition) :
    (∀ f, w.load ds = .error f ↔ IsFirstFault (placesOf ds) f) ∧
    ((∃ f, w.load ds = .error f) ↔ ∃ d ∈ ds, ¬ Resolvable d) ∧
    (∀ f, selectUnder root ds = .error f ↔
      IsFirstFault (ds.flatMap fun d => seenUnder root d.defines) f) ∧
    ((∃ f, selectUnder root ds = .error f) → ∃ f, w.load ds = .error f) ∧
    ((∀ d ∈ ds, Exposed root d) →
      ∀ f, selectUnder root ds = .error f ↔ w.load ds = .error f) ∧
    ∀ uri f, Location.toPath uri = .error f →
      (∃ r, f = .rejected uri r) ∨ ∃ m, f = .malformed m := by
  refine ⟨fun f => Workspace.load_eq_error_iff,
    Workspace.exists_load_eq_error_iff, fun f => selectUnder_eq_error_iff,
    fun ⟨f, hf⟩ => exists_load_of_selectUnder w hf, fun hexposed f => ?_,
    fun uri f => Location.rejected_or_malformed_of_toPath⟩
  rw [← Workspace.fault?_eq_some_iff, fault?_selectUnder_eq_load w hexposed,
    Workspace.fault?_eq_some_iff]

/-- A library in which a place without a path stands before a place in the
folder, and one stands in the definition after it. -/
def exposedLibrary : List Definition := [
  placed "a" [("file:///usr/a.lua", 7), ("file:///w/lib/a.lua", 0)],
  placed "b" [("file:///usr/b.lua", 1), ("untitled:b.lua", 3),
    ("file:///w/lib/b.lua", 5)],
  placed "c" [("untitled:c.lua", 2)]]

/-- The listing of the library fails for the first of the two, as the
workspace does. -/
theorem fault_of_select_exposedLibrary :
    (∀ d ∈ exposedLibrary, Exposed (.ofText "/w/lib") d) ∧
      selectUnder (.ofText "/w/lib") exposedLibrary =
        .error (.rejected "untitled:b.lua" .scheme) := by
  have hexposed : ∀ d ∈ exposedLibrary, Exposed (.ofText "/w/lib") d := by
    decide +kernel
  obtain ⟨-, -, -, -, hsame, -⟩ := fault_of_select (.ofText "/w/lib")
    (.empty .here (.ofText "/w/lib")) exposedLibrary
  refine ⟨hexposed, (hsame hexposed _).mpr ?_⟩
  rw [← Workspace.fault?_eq_some_iff, Workspace.fault?_load]
  decide +kernel

/-- A library in which a place without a path stands behind a place in the
folder. -/
def hiddenLibrary : List Definition :=
  [placed "a" [("file:///w/lib/a.lua", 0), ("untitled:b.lua", 3)]]

/-- There may be a listing and no workspace: the listing does not look at
the place without a path. -/
theorem select_hiddenLibrary :
    selectUnder (.ofText "/w/lib") hiddenLibrary = .ok hiddenLibrary ∧
      (Workspace.empty .here (.ofText "/w/lib")).load hiddenLibrary =
        .error (.rejected "untitled:b.lua" .scheme) := by
  have hlisted : ∃ listed,
      selectUnder (.ofText "/w/lib") hiddenLibrary = .ok listed := by
    rw [← Workspace.fault?_eq_none_iff, fault?_selectUnder]
    decide +kernel
  obtain ⟨listed, hlisted⟩ := hlisted
  refine ⟨?_, ?_⟩
  · have hkept : hiddenLibrary.filter (hasPlaceUnder (.ofText "/w/lib")) =
        hiddenLibrary := by
      decide +kernel
    rw [hlisted, eq_mergeSort_of_selectUnder hlisted, hkept, hiddenLibrary,
      List.mergeSort_singleton]
  · rw [← Workspace.fault?_eq_some_iff, Workspace.fault?_load]
    decide +kernel

end ApiBook
