/-
The components of paths.

* `IsComponent`: the names that lead one step down: not empty, no dots
  that stand for a place, no slash inside;
* `isComponent_of_mem_normalized`: a path from the top in normal form has
  no other components;
* `isComponent_of_toPath`: nor has the path that a location names;
* `relativeTo?_eq_some_iff`: what is left of a path below another one;
  `isUnder_iff_prefix`: which paths lie there;
* `text_inj`: relative paths with different components are written
  differently.
-/
import ApiBook.Path.Location
import ApiBook.Proofs.Text.Separated

namespace ApiBook.Path

/-- The names that lead one step down from any place. -/
structure IsComponent (s : Text) : Prop where
  ne_empty : s ≠ ("" : Text)
  ne_dot : s ≠ ("." : Text)
  ne_dots : s ≠ (".." : Text)
  no_slash : Code.char '/' ∉ s.toList

/-- The name of a path that leads somewhere is one of its components. -/
lemma name_mem_parts {p : Path} (h : p.parts ≠ []) : p.name ∈ p.parts := by
  rw [name, List.getLastD_eq_getLast?, List.getLast?_eq_some_getLast h]
  exact List.getLast_mem h

/-! ### Normal form -/

/-- What a path is read from is cut at the slashes, and what is idle is
left out. -/
lemma of_mem_ofCodes {cs : List Code} {s : Text}
    (h : s ∈ (ofCodes cs).parts) :
    s ≠ ("" : Text) ∧ s ≠ ("." : Text) ∧ Code.char '/' ∉ s.toList := by
  obtain ⟨piece, hp, rfl⟩ := List.mem_map.mp h
  obtain ⟨hsplit, hidle⟩ := List.mem_filter.mp hp
  simp only [isIdle, Bool.not_eq_true', Bool.or_eq_false_iff,
    decide_eq_false_iff_not] at hidle
  exact ⟨fun h0 => hidle.1 (congrArg Text.toList h0),
    fun h1 => hidle.2 (congrArg Text.toList h1),
    Text.not_mem_of_mem_split hsplit⟩

/-- One more component on a path from the top: the new components are
old ones or the one that came, and none is a double dot. -/
lemma of_mem_push {stack : List Text} {part s : Text}
    (hs : s ∈ push true stack part) :
    (s ∈ stack ∨ s = part) ∧ ((".." : Text) ∉ stack → s ≠ (".." : Text)) := by
  unfold push at hs
  split at hs
  · cases stack with
    | nil => simp at hs
    | cons top rest =>
        dsimp only at hs
        split at hs
        next htop =>
          refine ⟨?_, fun hno => absurd (by simp [htop]) hno⟩
          rcases List.mem_cons.mp hs with rfl | hs
          · exact Or.inl (by simp [htop])
          · exact Or.inl hs
        next htop =>
          have hmem : s ∈ top :: rest := List.mem_cons_of_mem _ hs
          exact ⟨Or.inl hmem, fun hno heq => hno (heq ▸ hmem)⟩
  next hpart =>
    rcases List.mem_cons.mp hs with rfl | hs
    · exact ⟨Or.inr rfl, fun _ => hpart⟩
    · exact ⟨Or.inl hs, fun hno heq => hno (heq ▸ hs)⟩

/-- Many more components on a path from the top. -/
lemma of_mem_foldl_push (parts : List Text) {stack : List Text}
    (hno : (".." : Text) ∉ stack) {s : Text}
    (hs : s ∈ parts.foldl (push true) stack) :
    (s ∈ stack ∨ s ∈ parts) ∧ s ≠ (".." : Text) := by
  induction parts generalizing stack with
  | nil => exact ⟨Or.inl hs, fun heq => hno (heq ▸ hs)⟩
  | cons part parts ih =>
      rw [List.foldl_cons] at hs
      have hno' : (".." : Text) ∉ push true stack part := fun h =>
        (of_mem_push h).2 hno rfl
      obtain ⟨hmem, hne⟩ := ih hno' hs
      refine ⟨?_, hne⟩
      rcases hmem with hmem | hmem
      · rcases (of_mem_push hmem).1 with h | rfl
        · exact Or.inl h
        · exact Or.inr (by simp)
      · exact Or.inr (by simp [hmem])

/-- The components of a path from the top in normal form were there
before, and none of them is a double dot. -/
lemma of_mem_normalized {p : Path} (hp : p.isAbsolute) {s : Text}
    (hs : s ∈ p.normalized.parts) : s ∈ p.parts ∧ s ≠ (".." : Text) := by
  simp only [normalized, hp, List.mem_reverse] at hs
  simpa using of_mem_foldl_push p.parts (by simp) hs

/-- A path read from a text and brought into normal form leads down from
the top step by step. -/
lemma isComponent_of_mem_normalized {cs : List Code}
    (ha : (ofCodes cs).isAbsolute) {s : Text}
    (hs : s ∈ (ofCodes cs).normalized.parts) : IsComponent s := by
  obtain ⟨hmem, hne⟩ := of_mem_normalized ha hs
  obtain ⟨h0, h1, h2⟩ := of_mem_ofCodes hmem
  exact ⟨h0, h1, hne, h2⟩

/-- The path that a location names was read from a text and brought into
normal form. -/
lemma exists_ofCodes_of_toPath {uri : Text} {p : Path}
    (h : Location.toPath uri = .ok p) :
    ∃ cs, p = (ofCodes cs).normalized ∧ (ofCodes cs).isAbsolute := by
  unfold Location.toPath at h
  split at h
  · exact absurd h (by simp)
  · split at h
    · exact absurd h (by simp)
    · split at h
      · exact absurd h (by simp)
      · dsimp only at h
        split at h
        next habs =>
          exact ⟨_, (Except.ok.inj h).symm, habs⟩
        · exact absurd h (by simp)

/-- A location names a path from the top. -/
lemma isAbsolute_of_toPath {uri : Text} {p : Path}
    (h : Location.toPath uri = .ok p) : p.isAbsolute := by
  obtain ⟨cs, rfl, ha⟩ := exists_ofCodes_of_toPath h
  exact ha

/-- The path that a location names leads down from the top step by
step. -/
lemma isComponent_of_toPath {uri : Text} {p : Path}
    (h : Location.toPath uri = .ok p) : ∀ s ∈ p.parts, IsComponent s := by
  obtain ⟨cs, rfl, ha⟩ := exists_ofCodes_of_toPath h
  exact fun s hs => isComponent_of_mem_normalized ha hs

/-! ### Paths below paths -/

/-- What is left of a list is what follows the list it starts with. -/
lemma dropParts?_eq_some_iff {bs ps rest : List Text} :
    dropParts? bs ps = some rest ↔ ps = bs ++ rest := by
  induction bs generalizing ps with
  | nil => simp [dropParts?]
  | cons b bs ih =>
      cases ps with
      | nil => simp [dropParts?]
      | cons p ps =>
          by_cases hbp : b = p
          · simp [dropParts?, hbp, ih]
          · simp [dropParts?, hbp, Ne.symm hbp]

/-- A relative path taken from another one goes on where that one
ends. -/
lemma append_of_relative {base q : Path} (hq : q.root = .relative) :
    base.append q = ⟨base.root, base.parts ++ q.parts⟩ := by
  simp [append, isAbsolute, hq]

/-- What is left of a path below another one is the relative path that
leads from the one to the other. -/
lemma relativeTo?_eq_some_iff {base p q : Path} :
    base.relativeTo? p = some q ↔
      q.root = .relative ∧ p = base.append q := by
  obtain ⟨qr, qs⟩ := q
  constructor
  · intro h
    rw [relativeTo?] at h
    split at h
    next hroot =>
      obtain ⟨rest, hrest, heq⟩ := Option.map_eq_some_iff.mp h
      rw [Path.mk.injEq] at heq
      obtain ⟨rfl, rfl⟩ := heq
      refine ⟨rfl, ?_⟩
      rw [append_of_relative rfl, ← dropParts?_eq_some_iff.mp hrest, hroot]
    · exact absurd h (by simp)
  · rintro ⟨hq, rfl⟩
    dsimp only at hq
    subst hq
    rw [append_of_relative rfl, relativeTo?, if_pos rfl,
      dropParts?_eq_some_iff.mpr rfl]
    rfl

/-- A path lies below another one if a relative one leads there. -/
lemma isUnder_iff {base p : Path} :
    base.isUnder p ↔ ∃ q : Path, q.root = .relative ∧ p = base.append q := by
  rw [isUnder, Option.isSome_iff_exists]
  simp only [relativeTo?_eq_some_iff]

/-- A path lies below another one if it starts like that and has its
components in front. -/
lemma isUnder_iff_prefix {base p : Path} :
    base.isUnder p ↔ p.root = base.root ∧ base.parts <+: p.parts := by
  rw [isUnder_iff]
  constructor
  · rintro ⟨q, hq, rfl⟩
    rw [append_of_relative hq]
    exact ⟨rfl, List.prefix_append _ _⟩
  · rintro ⟨hroot, rest, hrest⟩
    refine ⟨⟨.relative, rest⟩, rfl, ?_⟩
    rw [append_of_relative rfl, hrest, ← hroot]

/-! ### Paths in writing -/

/-- A relative path that leads somewhere is written as its components
between slashes. -/
lemma text_of_relative {p : Path} (hr : p.root = .relative)
    (hp : p.parts ≠ []) : p.text = Text.join "/" p.parts := by
  have hempty : p.parts.isEmpty = false := by simpa using hp
  simp only [text, hr, hempty, Root.text, Bool.and_false,
    Bool.false_eq_true, if_false, Text.empty_append]

/-- Components between slashes do not start with a slash. -/
lemma head?_join_ne_slash {parts : List Text}
    (h : ∀ s ∈ parts, IsComponent s) :
    (Text.join "/" parts).toList.head? ≠ some (.char '/') := by
  cases parts with
  | nil => simp [Text.join]
  | cons s parts =>
      obtain ⟨hs, -⟩ := List.forall_mem_cons.mp h
      have hhead : s.toList.head? ≠ some (.char '/') := fun hhead =>
        hs.no_slash (List.mem_of_head? hhead)
      have hne : s.toList ≠ [] := fun hnil => hs.ne_empty (Text.ext hnil)
      have hjoin : ∃ rest, (Text.join "/" (s :: parts)).toList =
          s.toList ++ rest := by
        cases parts with
        | nil => exact ⟨[], (List.append_nil _).symm⟩
        | cons t parts =>
            rw [Text.join_cons _ _ (by simp), Text.append_assoc,
              Text.toList_append]
            exact ⟨_, rfl⟩
      obtain ⟨rest, hrest⟩ := hjoin
      rwa [hrest, List.head?_append_of_ne_nil _ hne]

/-- Relative paths that lead somewhere are the same if they are written
the same. -/
lemma text_inj {p q : Path} (hp : p.root = .relative)
    (hq : q.root = .relative) (hp' : p.parts ≠ []) (hq' : q.parts ≠ [])
    (hpc : ∀ s ∈ p.parts, IsComponent s)
    (hqc : ∀ s ∈ q.parts, IsComponent s) (h : p.text = q.text) : p = q := by
  rw [text_of_relative hp hp', text_of_relative hq hq'] at h
  have hparts : p.parts = q.parts :=
    Text.join_inj (s := "/") rfl hp' hq'
      (fun s hs => (hpc s hs).no_slash) (fun s hs => (hqc s hs).no_slash) h
  obtain ⟨pr, ps⟩ := p
  obtain ⟨qr, qs⟩ := q
  simp_all

end ApiBook.Path
