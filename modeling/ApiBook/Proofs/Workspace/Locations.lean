/-
What goes wrong with locations, one by one and for a whole workspace.

* `hostOf`: the host that is read out of a location;
* `toPath_eq_malformed_iff`: a location is no address at all if its host
  is none; `exists_toPath_iff`: otherwise it names a path, or is rejected
  under its own name;
* `checkHost_hostOf_of_isOrdinary`: what passes as a host in any case;
* `IsFirstFault`, `load_eq_error_iff`: definitions are not loaded for the
  first fault among their places;
* `fault_of_build`: **a workspace is not filled for the fault of the first
  location that names no path**, and is for no other reason.
-/
import ApiBook.Proofs.Text.Trimmed
import ApiBook.Proofs.Workspace.Contents

namespace ApiBook

open Record (Define Definition)

namespace Location

/-! ### Hosts -/

/-- The host that is read out of a location. -/
def hostOf (uri : Text) : List Code :=
  (splitHost (splitScheme (cleaned uri.toList)).2).1

/-- A code point that is left alone where hosts are checked: no bracket,
and no mark in another form. -/
def IsOrdinary (c : Code) : Prop :=
  c ≠ .char '[' ∧ c ≠ .char ']' ∧ c.toNat ∉ compatibilityMarks

/-- What follows a scheme is the rest of the address. -/
lemma splitScheme_suffix (cs : List Code) : (splitScheme cs).2 <:+ cs := by
  unfold splitScheme
  split
  next c before after hcut =>
    split
    · rw [Text.append_of_breakAt? hcut]
      exact ⟨c :: before ++ [.char ':'], by simp⟩
    · exact List.suffix_refl cs
  · exact List.suffix_refl cs

/-- A host stands in the text it is split off from. -/
lemma splitHost_sublist (cs : List Code) : (splitHost cs).1.Sublist cs := by
  unfold splitHost
  split
  next rest =>
    exact (List.takeWhile_sublist _).trans
      ((List.sublist_cons_self _ _).trans (List.sublist_cons_self _ _))
  · exact List.nil_sublist _

/-- The code points of a host are code points of the location. -/
lemma hostOf_sublist (uri : Text) : (hostOf uri).Sublist uri.toList := by
  have hcleaned : (cleaned uri.toList).Sublist uri.toList :=
    List.filter_sublist.trans (List.dropWhile_sublist _)
  exact (splitHost_sublist _).trans
    ((splitScheme_suffix _).sublist.trans hcleaned)

/-- A host of ordinary code points is not objected to. -/
lemma checkHost_of_isOrdinary {host : List Code} (h : ∀ c ∈ host, IsOrdinary c) :
    checkHost host = .ok () := by
  have hopened : host.contains (.char '[') = false := by
    simpa using fun hmem => (h _ hmem).1 rfl
  have hclosed : host.contains (.char ']') = false := by
    simpa using fun hmem => (h _ hmem).2.1 rfl
  have hmarks : (host.any fun c => compatibilityMarks.contains c.toNat) =
      false := by
    simpa using fun c hc => (h c hc).2.2
  rw [checkHost]
  simp only [hopened, hclosed, hmarks]
  rfl

/-- Nor is the host of a location of ordinary code points. -/
lemma checkHost_hostOf_of_isOrdinary {uri : Text}
    (h : ∀ c ∈ uri.toList, IsOrdinary c) : checkHost (hostOf uri) = .ok () :=
  checkHost_of_isOrdinary fun c hc => h c ((hostOf_sublist uri).subset hc)

/-! ### Single locations -/

/-- A location falls into parts unless its host is objected to. -/
lemma parts_eq (uri : Text) :
    ∃ p, parts uri.toList = (checkHost (hostOf uri)).map fun _ => p := by
  rw [parts, hostOf]
  obtain ⟨scheme, rest⟩ := splitScheme (cleaned uri.toList)
  dsimp only
  obtain ⟨host, rest⟩ := splitHost rest
  refine ⟨⟨scheme, host,
    (rest.takeWhile (· ≠ .char '#')).takeWhile (· ≠ .char '?')⟩, ?_⟩
  dsimp only
  cases checkHost host <;> rfl

/-- A location is no address at all if its host is objected to, and for no
other reason. -/
lemma toPath_eq_malformed_iff {uri : Text} {m : Malformation} :
    toPath uri = .error (.malformed m) ↔
      checkHost (hostOf uri) = .error m := by
  obtain ⟨p, hparts⟩ := parts_eq uri
  rw [toPath, hparts]
  cases checkHost (hostOf uri) with
  | error m' => simp [Except.map]
  | ok _ =>
      simp only [Except.map]
      split_ifs <;> simp

/-- Any other location names a path, or is rejected under its own name. -/
lemma exists_toPath_iff {uri : Text} :
    ((∃ p, toPath uri = .ok p) ∨ ∃ r, toPath uri = .error (.rejected uri r)) ↔
      checkHost (hostOf uri) = .ok () := by
  obtain ⟨p, hparts⟩ := parts_eq uri
  rw [toPath, hparts]
  cases checkHost (hostOf uri) with
  | error m => simp [Except.map]
  | ok _ =>
      simp only [Except.map]
      split_ifs <;> simp

/-- A location fails under its own name, or is no address. -/
lemma rejected_or_malformed_of_toPath {uri : Text} {f : Fault}
    (h : toPath uri = .error f) :
    (∃ r, f = .rejected uri r) ∨ ∃ m, f = .malformed m := by
  cases f with
  | malformed m => exact .inr ⟨m, rfl⟩
  | rejected u r =>
    have hhost : checkHost (hostOf uri) = .ok () := by
      cases hcheck : checkHost (hostOf uri) with
      | ok _ => rfl
      | error m =>
        have hm := toPath_eq_malformed_iff.mpr hcheck
        exact absurd (h.symm.trans hm) (by simp)
    obtain ⟨path, hok⟩ | ⟨r', hr⟩ := exists_toPath_iff.mpr hhost
    · exact absurd (h.symm.trans hok) (by simp)
    · exact .inl ⟨r', Except.error.inj (h.symm.trans hr)⟩

end Location

namespace Workspace

/-! ### Many locations -/

/-- What goes wrong with a step, if anything does. -/
def fault? {ε α : Type*} : Except ε α → Option ε
  | .ok _ => none
  | .error e => some e

@[simp] lemma fault?_ok {ε α : Type*} (a : α) :
    fault? (.ok a : Except ε α) = none := rfl

@[simp] lemma fault?_error {ε α : Type*} (e : ε) :
    fault? (.error e : Except ε α) = some e := rfl

/-- A step ends in a fault if that is what goes wrong with it. -/
lemma fault?_eq_some_iff {ε α : Type*} {step : Except ε α} {e : ε} :
    fault? step = some e ↔ step = .error e := by
  cases step <;> simp [fault?]

/-- A step succeeds if nothing goes wrong with it. -/
lemma fault?_eq_none_iff {ε α : Type*} {step : Except ε α} :
    fault? step = none ↔ ∃ a, step = .ok a := by
  cases step <;> simp [fault?]

/-- What follows a step and cannot fail adds no fault. -/
lemma fault?_map {ε α β : Type*} (f : α → β) (step : Except ε α) :
    fault? (step.map f) = fault? step := by
  cases step <;> rfl

/-- What goes wrong with a list of steps is what goes wrong with the first
that fails. -/
lemma fault?_mapM {ε α β : Type*} (step : α → Except ε β) (as : List α) :
    fault? (as.mapM step) = as.findSome? fun a => fault? (step a) := by
  induction as with
  | nil => rfl
  | cons a as ih =>
    rw [List.mapM_cons, List.findSome?_cons, ← ih]
    cases step a with
    | error e => rfl
    | ok b => cases as.mapM step <;> rfl

/-- The first result along lists that are put together. -/
lemma findSome?_flatMap {α β γ : Type*} (f : β → Option γ) (g : α → List β)
    (as : List α) :
    (as.flatMap g).findSome? f = as.findSome? fun a => (g a).findSome? f := by
  induction as with
  | nil => rfl
  | cons a as ih =>
    rw [List.flatMap_cons, List.findSome?_append, ih, List.findSome?_cons]
    cases (g a).findSome? f <;> rfl

/-- The places of definitions, in the order in which they are looked
at. -/
def placesOf (ds : List Definition) : List Define :=
  ds.flatMap (·.defines)

variable {current folder : Path} {ds : List Definition}

/-- A fault is that of the first of some places that names no path. -/
def IsFirstFault (ps : List Define) (f : Location.Fault) : Prop :=
  ∃ before p after, ps = before ++ p :: after ∧
    Location.toPath p.file = .error f ∧
    ∀ q ∈ before, ∃ path, Location.toPath q.file = .ok path

/-- The first fault is what a search along the places finds. -/
lemma isFirstFault_iff {ps : List Define} {f : Location.Fault} :
    IsFirstFault ps f ↔
      (ps.findSome? fun p => fault? (Location.toPath p.file)) = some f := by
  rw [List.findSome?_eq_some_iff]
  simp only [IsFirstFault, fault?_eq_some_iff, fault?_eq_none_iff]

/-- There is a first fault if some place names no path. -/
lemma exists_isFirstFault_iff {ds : List Definition} :
    (∃ f, IsFirstFault (placesOf ds) f) ↔ ∃ d ∈ ds, ¬ Resolvable d := by
  simp only [isFirstFault_iff, ← Option.isSome_iff_exists,
    List.findSome?_isSome_iff, placesOf, List.mem_flatMap]
  simp only [Option.isSome_iff_ne_none, ne_eq, fault?_eq_none_iff, Resolvable,
    not_forall]
  constructor
  · rintro ⟨p, ⟨d, hd, hp⟩, hno⟩
    exact ⟨d, hd, p, hp, hno⟩
  · rintro ⟨d, hd, p, hp, hno⟩
    exact ⟨p, ⟨d, hd, hp⟩, hno⟩

/-- What goes wrong with definitions that are loaded is what goes wrong with
the first of their places that names no path. -/
lemma fault?_load (w : Workspace) (ds : List Definition) :
    fault? (w.load ds) =
      (placesOf ds).findSome? fun p => fault? (Location.toPath p.file) := by
  have hplace : ∀ p : Define, (do
      return (← Location.toPath p.file, p.span.start) :
        Except Location.Fault (Path × ℕ)) =
          (Location.toPath p.file).map fun path => (path, p.span.start) := by
    intro p
    cases Location.toPath p.file <;> rfl
  have hone : ∀ d : Definition, fault? (resolveOne d) =
      d.defines.findSome? fun p => fault? (Location.toPath p.file) := by
    intro d
    have hmap : resolveOne d = (d.defines.mapM fun p =>
        (Location.toPath p.file).map fun path => (path, p.span.start)).map
          (Resolved.mk d) := by
      simp only [resolveOne, hplace]
      cases d.defines.mapM fun p =>
        (Location.toPath p.file).map fun path => (path, p.span.start) <;> rfl
    simp only [hmap, fault?_map, fault?_mapM]
  have hload : w.load ds =
      (resolve ds).map fun rs => w.addAll (filesOf w.root rs) := by
    rw [load]
    cases resolve ds <;> rfl
  rw [hload, fault?_map, resolve, fault?_mapM, placesOf, findSome?_flatMap]
  simp only [hone]

/-- So it is with a workspace that is filled with them. -/
lemma fault?_build (current folder : Path) (ds : List Definition) :
    fault? (build current folder ds) =
      (placesOf ds).findSome? fun p => fault? (Location.toPath p.file) :=
  fault?_load _ ds

/-- Definitions are not loaded for the first fault among their places. -/
lemma load_eq_error_iff {w : Workspace} {f : Location.Fault} :
    w.load ds = .error f ↔ IsFirstFault (placesOf ds) f := by
  rw [isFirstFault_iff, ← fault?_load w, fault?_eq_some_iff]

/-- They are loaded if all of their places have paths. -/
lemma exists_load_eq_error_iff {w : Workspace} :
    (∃ f, w.load ds = .error f) ↔ ∃ d ∈ ds, ¬ Resolvable d := by
  simp only [load_eq_error_iff]
  exact exists_isFirstFault_iff

/-- **A workspace is not filled for the fault of the first location that
names no path.** Every location whose host is not objected to names a
path, or is rejected under its own name; the others are no addresses, for
what is objected to in their hosts. Ordinary code points are never
objected to. A workspace is not filled for the fault of one place, all places
before it having paths; so where no host is objected to it is filled, or
the location of a place is rejected. -/
theorem fault_of_build (current folder : Path) (ds : List Definition) :
    (∀ uri, ((∃ p, Location.toPath uri = .ok p) ∨
        ∃ r, Location.toPath uri = .error (.rejected uri r)) ↔
      Location.checkHost (Location.hostOf uri) = .ok ()) ∧
    (∀ uri m, Location.toPath uri = .error (.malformed m) ↔
      Location.checkHost (Location.hostOf uri) = .error m) ∧
    (∀ uri : Text, (∀ c ∈ uri.toList, Location.IsOrdinary c) →
      Location.checkHost (Location.hostOf uri) = .ok ()) ∧
    (∀ f, build current folder ds = .error f ↔
      ∃ before p after, placesOf ds = before ++ p :: after ∧
        Location.toPath p.file = .error f ∧
        ∀ q ∈ before, ∃ path, Location.toPath q.file = .ok path) ∧
    ((∀ p ∈ placesOf ds,
        Location.checkHost (Location.hostOf p.file) = .ok ()) →
      (∃ w, build current folder ds = .ok w) ∨
        ∃ p ∈ placesOf ds, ∃ r,
          build current folder ds = .error (.rejected p.file r)) := by
  have hfirst : ∀ f, build current folder ds = .error f ↔
      ∃ before p after, placesOf ds = before ++ p :: after ∧
        Location.toPath p.file = .error f ∧
        ∀ q ∈ before, ∃ path, Location.toPath q.file = .ok path := by
    intro f
    rw [← fault?_eq_some_iff, fault?_build, List.findSome?_eq_some_iff]
    simp only [fault?_eq_some_iff, fault?_eq_none_iff]
  refine ⟨fun uri => Location.exists_toPath_iff,
    fun uri m => Location.toPath_eq_malformed_iff,
    fun uri => Location.checkHost_hostOf_of_isOrdinary, hfirst, fun hhosts => ?_⟩
  cases hbuild : build current folder ds with
  | ok w => exact .inl ⟨w, rfl⟩
  | error f =>
    obtain ⟨before, p, after, hsplit, hp, -⟩ := (hfirst f).mp hbuild
    have hmem : p ∈ placesOf ds := by
      rw [hsplit]
      exact List.mem_append_right before List.mem_cons_self
    obtain ⟨path, hok⟩ | ⟨r, hrejected⟩ :=
      Location.exists_toPath_iff.mpr (hhosts p hmem)
    · exact absurd (hp.symm.trans hok) (by simp)
    · obtain rfl := Except.error.inj (hp.symm.trans hrejected)
      exact .inr ⟨p, hmem, r, rfl⟩

/-- A library with a location on another machine, an address in brackets
for its host. -/
def remoteLibrary : List Definition :=
  [placed "a" [("file:///w/lib/a.lua", 0), ("file://[::1]/b.lua", 3)]]

/-- No host in the library is objected to, and it is not filled for the
location on the other machine. -/
theorem fault_of_build_remoteLibrary :
    (∀ p ∈ placesOf remoteLibrary,
      Location.checkHost (Location.hostOf p.file) = .ok ()) ∧
    ∃ p ∈ placesOf remoteLibrary, ∃ r,
      build .here (.ofText "/w/lib") remoteLibrary =
        .error (.rejected p.file r) := by
  have hhosts : ∀ p ∈ placesOf remoteLibrary,
      Location.checkHost (Location.hostOf p.file) = .ok () := by
    decide +kernel
  obtain ⟨-, -, -, -, hbuild⟩ :=
    fault_of_build .here (.ofText "/w/lib") remoteLibrary
  refine ⟨hhosts, (hbuild hhosts).resolve_left fun ⟨w, hw⟩ => ?_⟩
  have hplaces := resolvable_of_build hw
  exact absurd hplaces (by decide +kernel)

/-- A library with a location that has half of an address in brackets for
its host. -/
def brokenLibrary : List Definition :=
  [placed "a" [("file://[/a.lua", 0)]]

/-- A location may fail without being rejected under its name, and so may
a workspace: the one bracket is objected to. -/
theorem malformed_brokenLibrary :
    (¬ ((∃ p, Location.toPath "file://[/a.lua" = .ok p) ∨
      ∃ r, Location.toPath "file://[/a.lua" =
        .error (.rejected "file://[/a.lua" r))) ∧
    build .here (.ofText "/w/lib") brokenLibrary =
      .error (.malformed .brackets) := by
  have hpath : Location.toPath "file://[/a.lua" =
      .error (.malformed .brackets) := by
    decide +kernel
  refine ⟨?_, ?_⟩
  · rw [hpath]
    simp
  · rw [← fault?_eq_some_iff, fault?_build]
    simp [placesOf, brokenLibrary, placed, hpath, fault?]

end Workspace

end ApiBook
