/-
Loading in place: all of it, or nothing.

* `run_loadInPlace`: what is loaded in place is what is loaded apart, and
  the workspace stays as it is if that fails;
* `Call.perform`, `performAll`: calls on the workspace that is there;
  `performAll_eq`: what goes wrong with a call does not depend on the calls
  before it;
* `atomic_loadInPlace`: **a load fails for the first place without a path,
  and leaves nothing behind**.
-/
import ApiBook.Proofs.Workspace.Growth
import ApiBook.Proofs.Workspace.Locations

namespace ApiBook.Workspace

open Record (Definition)

/-! ### Loading in place -/

/-- Steps that do not look at the state leave it alone. -/
lemma run_mapM_ofExcept {ε σ α β : Type} (step : α → Except ε β)
    (as : List α) (s : σ) :
    (as.mapM fun a => (ofExcept (step a) : EStateM ε σ β)).run s =
      match as.mapM step with
      | .ok bs => .ok bs s
      | .error e => .error e s := by
  induction as with
  | nil => rfl
  | cons a as ih =>
    rw [List.mapM_cons, List.mapM_cons, EStateM.run_bind]
    cases step a with
    | error e => rfl
    | ok b =>
      change ((as.mapM fun a => (ofExcept (step a) : EStateM ε σ β)) >>=
        fun bs => pure (b :: bs)).run s = _
      rw [EStateM.run_bind, ih]
      cases as.mapM step <;> rfl

/-- Files are added one after the other. -/
lemma run_forM_add (w : Workspace) (fs : List SourceFile) :
    (fs.forM fun f => modify (·.add f) :
      EStateM Location.Fault Workspace Unit).run w = .ok () (w.addAll fs) := by
  induction fs generalizing w with
  | nil => rfl
  | cons f fs ih => exact ih (w.add f)

/-- What is loaded in place is what is loaded apart. If that fails, the
workspace stays as it is. -/
lemma run_loadInPlace (w : Workspace) (ds : List Definition) :
    (loadInPlace ds).run w =
      match w.load ds with
      | .ok w' => .ok () w'
      | .error f => .error f w := by
  rw [loadInPlace, EStateM.run_bind, run_mapM_ofExcept, load, resolve]
  cases ds.mapM resolveOne with
  | error f => rfl
  | ok rs => exact run_forM_add w _

/-! ### Calls -/

/-- A call on the workspace that is there. -/
def Call.perform : Call → EStateM Location.Fault Workspace Unit
  | load ds => loadInPlace ds
  | add path entries => modify (·.add (.ofEntries path entries))

/-- Calls on a workspace one after the other, whether or not they fail: what
goes wrong with each of them, and the workspace after them. -/
def performAll :
    Workspace → List Call → List (Option Location.Fault) × Workspace
  | w, [] => ([], w)
  | w, c :: cs =>
    match c.perform.run w with
    | .ok () w' => (performAll w' cs).map (none :: ·) id
    | .error f w' => (performAll w' cs).map (some f :: ·) id

/-- What goes wrong with a call. -/
def Call.fault? : Call → Option Location.Fault
  | load ds =>
    (placesOf ds).findSome? fun p => Workspace.fault? (Location.toPath p.file)
  | add _ _ => none

/-- A call, whatever comes of it, leaves the workspace of the step. -/
lemma performAll_cons (w : Workspace) (c : Call) (cs : List Call) :
    performAll w (c :: cs) =
      (performAll (w.step c) cs).map (c.fault? :: ·) id := by
  rw [performAll]
  cases c with
  | add path entries => rfl
  | load ds =>
    rw [Call.perform, run_loadInPlace, step, Call.fault?, ← fault?_load w]
    cases w.load ds <;> rfl

/-- What goes wrong with a call does not depend on the calls before it. -/
lemma performAll_eq (w : Workspace) (cs : List Call) :
    performAll w cs = (cs.map Call.fault?, cs.foldl step w) := by
  induction cs generalizing w with
  | nil => rfl
  | cons c cs ih => rw [performAll_cons, ih]; rfl

/-- **A load fails for the first place without a path, and leaves nothing
behind.** Whatever a workspace holds, a load fails exactly if some place of
the definitions has no path, be it outside of the folder or in the last of
them. It fails for the first such place, in the order of the definitions and
then of their places, and the workspace after it is the one before it. So
other calls do after a failed load what they would have done without it. -/
theorem atomic_loadInPlace (w : Workspace) (ds : List Definition) :
    ((∃ f w', (loadInPlace ds).run w = .error f w') ↔
      ∃ d ∈ ds, ¬ Resolvable d) ∧
    (∀ f w', (loadInPlace ds).run w = .error f w' ↔
      IsFirstFault (placesOf ds) f ∧ w' = w) ∧
    ∀ f, IsFirstFault (placesOf ds) f → ∀ before after,
      performAll w (before ++ .load ds :: after) =
        (before.map Call.fault? ++ some f :: after.map Call.fault?,
          (performAll w (before ++ after)).2) := by
  have hfails : ∀ f w', (loadInPlace ds).run w = .error f w' ↔
      IsFirstFault (placesOf ds) f ∧ w' = w := by
    intro f w'
    rw [run_loadInPlace, ← load_eq_error_iff (w := w)]
    cases w.load ds <;> simp [eq_comm]
  refine ⟨?_, hfails, fun f hf before after => ?_⟩
  · simp only [hfails, exists_and_left, exists_eq, and_true]
    exact exists_isFirstFault_iff
  · have hstep : ∀ v : Workspace, v.step (.load ds) = v := fun v => by
      rw [step, load_eq_error_iff.mpr hf]
    have hfault : (Call.load ds).fault? = some f := isFirstFault_iff.mp hf
    simp only [performAll_eq, List.map_append, List.map_cons, hfault,
      List.foldl_append, List.foldl_cons, hstep]

/-- A library whose last definition has a place outside of the folder that
has no path. -/
def lateLibrary : List Definition := [
  placed "a" [("file:///w/lib/a.lua", 0)],
  placed "b" [("file:///w/lib/b.lua", 4), ("untitled:b.lua", 1)]]

/-- The library fails for this place in a workspace that holds files, and a
file added after it comes to those. -/
theorem atomic_loadInPlace_lateLibrary :
    IsFirstFault (placesOf lateLibrary)
      (.rejected "untitled:b.lua" .scheme) ∧
    performAll (run .here (.ofText "/w/lib") [.load sampleLibrary])
        [.load lateLibrary, .add (.ofText "renoise/app.lua") []] =
      ([some (.rejected "untitled:b.lua" .scheme), none],
        run .here (.ofText "/w/lib")
          [.load sampleLibrary, .add (.ofText "renoise/app.lua") []]) := by
  have hfault : IsFirstFault (placesOf lateLibrary)
      (.rejected "untitled:b.lua" .scheme) := by
    rw [isFirstFault_iff]
    decide +kernel
  obtain ⟨-, -, hafter⟩ := atomic_loadInPlace
    (run .here (.ofText "/w/lib") [.load sampleLibrary]) lateLibrary
  have hlate := hafter _ hfault []
    [.add (.ofText "renoise/app.lua") []]
  rw [List.nil_append] at hlate
  rw [hlate, List.nil_append, performAll_eq, run, run, ← List.foldl_append]
  exact ⟨hfault, rfl⟩

end ApiBook.Workspace
