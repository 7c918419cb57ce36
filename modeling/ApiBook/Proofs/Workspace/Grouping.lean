/-
Definitions grouped by the files in which they have places.

* `resolve_eq_ok_iff`: resolving keeps the definitions and gives every
  place its path;
* `firstStart?`: the offset of the first place of a definition in a file;
  `entriesAt_eq`: what is grouped under a path are the definitions with a
  place there, in order, each once;
* `mem_grouped_iff`, `nodup_grouped`: a file is made for every path of a
  place strictly below the folder, and only one;
* `build_eq_ok_iff`: a workspace is filled with these files, in order;
  `exists_error_iff`: it is not filled if some place has no path.
-/
import ApiBook.Proofs.Path.Component
import ApiBook.Proofs.Workspace.Forest
import ApiBook.Workspace.Load
import Mathlib.Data.List.Forall2
import Mathlib.Data.List.Nodup

namespace ApiBook.Workspace

open Record (Define Definition)

/-! ### Resolving -/

/-- A list of steps succeeds if each of them does. -/
lemma mapM_eq_ok_iff {ε α β : Type*} {step : α → Except ε β} {as : List α}
    {bs : List β} :
    as.mapM step = .ok bs ↔
      List.Forall₂ (fun a b => step a = .ok b) as bs := by
  induction as generalizing bs with
  | nil => simp [pure, Except.pure, eq_comm]
  | cons a as ih =>
      rw [List.mapM_cons, List.forall₂_cons_left_iff]
      cases ha : step a with
      | error e => simp [bind, Except.bind]
      | ok b =>
          cases has : as.mapM step with
          | error e => simp [bind, Except.bind, ← ih, has]
          | ok rest =>
              simp [bind, Except.bind, pure, Except.pure, ← ih, has,
                eq_comm]

/-- What a relation says of its left side holds of all elements of a list
that is related one for one. -/
lemma forall_mem_of_forall₂ {α β : Type*} {R : α → β → Prop} {P : α → Prop}
    (hP : ∀ a b, R a b → P a) {as : List α} {bs : List β}
    (h : List.Forall₂ R as bs) : ∀ a ∈ as, P a := by
  induction h with
  | nil => exact fun a ha => absurd ha List.not_mem_nil
  | cons hab _ ih => exact List.forall_mem_cons.mpr ⟨hP _ _ hab, ih⟩

/-- A place, and the path and offset that are found for it. -/
def FoundAt (p : Define) (place : Path × ℕ) : Prop :=
  Location.toPath p.file = .ok place.1 ∧ p.span.start = place.2

/-- A definition, and the paths and offsets that are found for its
places. -/
def ResolvesTo (d : Definition) (r : Resolved) : Prop :=
  r.definition = d ∧ List.Forall₂ FoundAt d.defines r.places

/-- Resolving a definition gives each of its places a path. -/
lemma resolveOne_eq_ok_iff {d : Definition} {r : Resolved} :
    resolveOne d = .ok r ↔ ResolvesTo d r := by
  have hstep : ∀ (p : Define) (place : Path × ℕ),
      (do return (← Location.toPath p.file, p.span.start) :
        Except Location.Fault (Path × ℕ)) = .ok place ↔
        FoundAt p place := by
    intro p place
    cases hp : Location.toPath p.file with
    | error e => simp [FoundAt, hp, bind, Except.bind]
    | ok q =>
        obtain ⟨q', n⟩ := place
        simp [FoundAt, hp, bind, Except.bind, pure, Except.pure]
  have hrel : (fun (p : Define) (place : Path × ℕ) =>
      (do return (← Location.toPath p.file, p.span.start) :
        Except Location.Fault (Path × ℕ)) = .ok place) = FoundAt :=
    funext fun p => funext fun place => propext (hstep p place)
  obtain ⟨definition, places⟩ := r
  rw [ResolvesTo, resolveOne, ← hrel, ← mapM_eq_ok_iff]
  cases hps : d.defines.mapM (fun p => (do
      return (← Location.toPath p.file, p.span.start) :
        Except Location.Fault (Path × ℕ))) with
  | error e => simp [bind, Except.bind]
  | ok ps =>
      simp [bind, Except.bind, pure, Except.pure, eq_comm]

/-- Resolving keeps the definitions, each with its places. -/
lemma resolve_eq_ok_iff {ds : List Definition} {rs : List Resolved} :
    resolve ds = .ok rs ↔ List.Forall₂ ResolvesTo ds rs := by
  have hrel : (fun d r => resolveOne d = .ok r) = ResolvesTo :=
    funext fun d => funext fun r => propext resolveOne_eq_ok_iff
  rw [resolve, mapM_eq_ok_iff, hrel]

/-- A definition whose places all have paths. -/
def Resolvable (d : Definition) : Prop :=
  ∀ p ∈ d.defines, ∃ q, Location.toPath p.file = .ok q

instance (d : Definition) : Decidable (Resolvable d) :=
  decidable_of_iff (∀ p ∈ d.defines, (Location.toPath p.file).isOk) <| by
    refine forall₂_congr fun p _ => ?_
    cases Location.toPath p.file with
    | error e => simp [Except.isOk, Except.toBool]
    | ok q => simp [Except.isOk, Except.toBool]

/-- Definitions whose places all have paths are resolved. -/
lemma exists_resolve {ds : List Definition} (h : ∀ d ∈ ds, Resolvable d) :
    ∃ rs, resolve ds = .ok rs := by
  have hplaces : ∀ ps : List Define,
      (∀ p ∈ ps, ∃ q, Location.toPath p.file = .ok q) →
      ∃ places, List.Forall₂ FoundAt ps places := by
    intro ps hps
    induction ps with
    | nil => exact ⟨[], .nil⟩
    | cons p ps ih =>
        obtain ⟨q, hq⟩ := hps p (by simp)
        obtain ⟨places, hplaces⟩ := ih fun p hp => hps p (by simp [hp])
        exact ⟨(q, p.span.start) :: places, .cons ⟨hq, rfl⟩ hplaces⟩
  induction ds with
  | nil => exact ⟨[], rfl⟩
  | cons d ds ih =>
      obtain ⟨places, hd⟩ := hplaces d.defines (h d (by simp))
      obtain ⟨rs, hrs⟩ := ih fun d hd => h d (by simp [hd])
      exact ⟨⟨d, places⟩ :: rs,
        resolve_eq_ok_iff.mpr (.cons ⟨rfl, hd⟩ (resolve_eq_ok_iff.mp hrs))⟩

/-! ### Entries of files -/

/-- The offset of the first place of a definition in a file. -/
def firstStart? (target : Path) (d : Definition) : Option ℕ :=
  (d.defines.find? fun p => Location.toPath p.file = .ok target).map
    (·.span.start)

/-- A definition has a first place in a file if it has one at all. -/
lemma isSome_firstStart?_iff {target : Path} {d : Definition} :
    (firstStart? target d).isSome ↔
      ∃ p ∈ d.defines, Location.toPath p.file = .ok target := by
  simp [firstStart?]

/-- The first place in a file is the first that is found there. -/
lemma find_places (target : Path) {ps : List Define}
    {places : List (Path × ℕ)} (h : List.Forall₂ FoundAt ps places) :
    (places.find? (·.1 = target)).map (·.2) =
      (ps.find? fun p => Location.toPath p.file = .ok target).map
        (·.span.start) := by
  induction h with
  | nil => rfl
  | @cons p place ps places hp _ ih =>
      obtain ⟨hpath, hstart⟩ := hp
      by_cases heq : place.1 = target
      · simp [heq, hpath, hstart]
      · simp [heq, hpath, ih]

/-- What is grouped under a path are the definitions with a place there,
in order, each once and with the offset of its first place. -/
lemma entriesAt_eq {ds : List Definition} {rs : List Resolved}
    (h : List.Forall₂ ResolvesTo ds rs) (target : Path) :
    entriesAt target rs =
      ds.filterMap fun d => (firstStart? target d).map fun i => (i, d) := by
  rw [entriesAt]
  induction h with
  | nil => rfl
  | @cons d r ds rs hd _ ih =>
      obtain ⟨rfl, hplaces⟩ := hd
      have hfirst := find_places target hplaces
      rw [List.filterMap_cons, List.filterMap_cons, ih, firstStart?, ← hfirst,
        Option.map_map]
      rfl

/-- The paths that files are made for are those of the places. -/
lemma mem_pathsOf_iff {ds : List Definition} {rs : List Resolved}
    (h : List.Forall₂ ResolvesTo ds rs) {target : Path} :
    target ∈ pathsOf rs ↔
      ∃ d ∈ ds, ∃ p ∈ d.defines, Location.toPath p.file = .ok target := by
  have hplaces : ∀ {ps : List Define} {places : List (Path × ℕ)},
      List.Forall₂ FoundAt ps places →
      (target ∈ places.map (·.1) ↔
        ∃ p ∈ ps, Location.toPath p.file = .ok target) := by
    intro ps places hps
    induction hps with
    | nil => simp
    | @cons p place ps places hp _ ih =>
        rw [List.map_cons, List.mem_cons, List.exists_mem_cons_iff, ih, hp.1]
        simp [eq_comm]
  rw [pathsOf, List.mem_eraseDups]
  induction h with
  | nil => simp
  | @cons d r ds rs hd _ ih =>
      rw [List.flatMap_cons, List.mem_append, List.exists_mem_cons_iff]
      exact or_congr (hplaces hd.2) ih

/-! ### Files -/

/-- No element is left twice. -/
lemma nodup_eraseDups {α : Type*} [BEq α] [LawfulBEq α] (as : List α) :
    as.eraseDups.Nodup := by
  induction hn : as.length using Nat.strongRecOn generalizing as with
  | _ n ih =>
    cases as with
    | nil => simp
    | cons a as =>
        have hlen : (as.filter fun b => !b == a).length < n := by
          rw [← hn]
          exact Nat.lt_succ_of_le (List.length_filter_le _ _)
        rw [List.eraseDups_cons, List.nodup_cons, List.mem_eraseDups]
        exact ⟨by simp, ih _ hlen _ rfl⟩

/-- A file is made for a path strictly below the folder that a place has,
with all that is grouped there. -/
lemma mem_grouped_iff {root : Path} {rs : List Resolved} {f : SourceFile} :
    f ∈ grouped root rs ↔
      f.path.root = .relative ∧ f.path.parts ≠ [] ∧
        root.append f.path ∈ pathsOf rs ∧
        f = .ofEntries f.path (entriesAt (root.append f.path) rs) := by
  rw [grouped, List.mem_filterMap]
  constructor
  · rintro ⟨path, hpath, hf⟩
    obtain ⟨q, hq, hf⟩ := Option.bind_eq_some_iff.mp hf
    obtain ⟨hroot, rfl⟩ := Path.relativeTo?_eq_some_iff.mp hq
    split at hf
    · exact absurd hf (by simp)
    next hne =>
      obtain rfl := Option.some.inj hf
      exact ⟨hroot, by simpa [SourceFile.ofEntries] using hne, hpath, rfl⟩
  · rintro ⟨hroot, hne, hpath, hf⟩
    refine ⟨_, hpath, Option.bind_eq_some_iff.mpr ⟨f.path, ?_, ?_⟩⟩
    · exact Path.relativeTo?_eq_some_iff.mpr ⟨hroot, rfl⟩
    · rw [if_neg (by simpa using hne), ← hf]

/-- Only one file is made for a path. -/
lemma nodup_grouped (root : Path) (rs : List Resolved) :
    ((grouped root rs).map (·.path)).Nodup := by
  rw [grouped, List.map_filterMap]
  refine List.Nodup.filterMap ?_ (nodup_eraseDups _)
  intro a b q ha hb
  have hpath : ∀ {path : Path}, q ∈ ((do
      let relative ← root.relativeTo? path
      if relative.parts.isEmpty then none
      else some (SourceFile.ofEntries relative (entriesAt path rs)) :
        Option SourceFile).map (·.path)) → path = root.append q := by
    intro path hq
    obtain ⟨f, hf, rfl⟩ := Option.map_eq_some_iff.mp hq
    obtain ⟨r, hr, hf⟩ := Option.bind_eq_some_iff.mp hf
    obtain ⟨-, rfl⟩ := Path.relativeTo?_eq_some_iff.mp hr
    split at hf
    · exact absurd hf (by simp)
    · rw [← Option.some.inj hf]
      rfl
  rw [hpath ha, hpath hb]

/-! ### Filled workspaces -/

/-- A workspace is filled with the files of its definitions, in order. -/
lemma build_eq_ok_iff {current folder : Path} {ds : List Definition}
    {w : Workspace} :
    build current folder ds = .ok w ↔
      ∃ rs, resolve ds = .ok rs ∧
        w = (empty current folder).addAll
          (filesOf (Path.resolvedIn current folder) rs) := by
  rw [build, load]
  cases resolve ds with
  | error e => simp [bind, Except.bind]
  | ok rs =>
      simp [bind, Except.bind, pure, Except.pure, empty, eq_comm]

/-- Definitions whose places all have paths fill a workspace. -/
lemma exists_build (current folder : Path) {ds : List Definition}
    (h : ∀ d ∈ ds, Resolvable d) : ∃ w, build current folder ds = .ok w := by
  obtain ⟨rs, hrs⟩ := exists_resolve h
  exact ⟨_, build_eq_ok_iff.mpr ⟨rs, hrs, rfl⟩⟩

variable {current folder : Path} {ds : List Definition} {w : Workspace}

/-- Definitions that fill a workspace have paths for all their places. -/
lemma resolvable_of_build (h : build current folder ds = .ok w) :
    ∀ d ∈ ds, Resolvable d := by
  obtain ⟨rs, hrs, -⟩ := build_eq_ok_iff.mp h
  refine forall_mem_of_forall₂ (fun d r hd => ?_) (resolve_eq_ok_iff.mp hrs)
  exact forall_mem_of_forall₂ (fun p place hp => ⟨place.1, hp.1⟩) hd.2

/-- A workspace is not filled if some place has no path, and only
then. -/
lemma exists_error_iff :
    (∃ e, build current folder ds = .error e) ↔
      ∃ d ∈ ds, ¬ Resolvable d := by
  constructor
  · rintro ⟨e, he⟩
    by_contra hno
    have hall : ∀ d ∈ ds, Resolvable d := fun d hd =>
      by_contra fun hd' => hno ⟨d, hd, hd'⟩
    obtain ⟨w, hw⟩ := exists_build current folder hall
    exact absurd (he.symm.trans hw) (by simp)
  · rintro ⟨d, hd, hno⟩
    cases hbuild : build current folder ds with
    | error e => exact ⟨e, rfl⟩
    | ok w => exact absurd (resolvable_of_build hbuild d hd) hno

/-- The folder of a filled workspace. -/
lemma root_of_build (h : build current folder ds = .ok w) :
    w.root = Path.resolvedIn current folder := by
  obtain ⟨rs, -, rfl⟩ := build_eq_ok_iff.mp h
  rw [root_addAll, empty]

/-- The entries of a filled workspace are linked. -/
lemma linked_of_build (h : build current folder ds = .ok w) :
    Linked w.entries := by
  obtain ⟨rs, -, rfl⟩ := build_eq_ok_iff.mp h
  exact linked_addAll (fun j hj => absurd hj (by simp [empty])) _

/-- The entries of a filled workspace are the files of its definitions,
in order. -/
lemma map_file_of_build (h : build current folder ds = .ok w) :
    ∃ rs, List.Forall₂ ResolvesTo ds rs ∧
      w.entries.map (·.file) = filesOf w.root rs := by
  obtain ⟨rs, hrs, hw⟩ := build_eq_ok_iff.mp h
  refine ⟨rs, resolve_eq_ok_iff.mp hrs, ?_⟩
  rw [root_of_build h, hw, map_file_addAll, empty, List.map_nil,
    List.nil_append]

/-- The files of a filled workspace are those grouped from its
definitions. -/
lemma walk_perm_grouped (h : build current folder ds = .ok w) :
    ∃ rs, List.Forall₂ ResolvesTo ds rs ∧
      w.walk.Perm (grouped w.root rs) := by
  obtain ⟨rs, hrs, hfiles⟩ := map_file_of_build h
  refine ⟨rs, hrs, (walk_perm w).trans ?_⟩
  rw [hfiles]
  exact List.mergeSort_perm _ _

end ApiBook.Workspace
