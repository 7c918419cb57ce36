/-
The members of objects by name.

* `get?_of_mem`, `mem_of_get?`, `get?_of_not_mem`: each name has the value
  of its member, and only the names of members have one;
* `put_of_not_mem`: a new member comes last; `put_put`: the last value for
  a name stays; `nodup_put`: different names stay different;
* `nodup_ofPairs`, `mem_of_mem_ofPairs`: members taken one after another
  have different names, and are among those that were given;
  `ofPairs_of_nodup`: members with different names stay as they are;
* `Distinct`: values in which the members of all objects have different
  names, however deep.
-/
import ApiBook.Value.Basic
import Mathlib.Tactic.Common

namespace ApiBook.Members

variable {key : Text} {value : Value}

/-- With different names, each one has the value of its member. -/
lemma get?_of_mem {ms : Members} (names : (ms.map Prod.fst).Nodup)
    (h : (key, value) ∈ ms) : get? key ms = some value := by
  induction ms with
  | nil => exact absurd h List.not_mem_nil
  | cons m ms ih =>
    rw [List.map_cons, List.nodup_cons] at names
    rcases List.mem_cons.mp h with rfl | h
    · rw [get?, if_pos rfl]
    · have hne : m.1 ≠ key := fun he =>
        names.1 (he ▸ List.mem_map_of_mem h)
      rw [get?, if_neg hne, ih names.2 h]

/-- The value of a name is that of a member. -/
lemma mem_of_get? {ms : Members} (h : get? key ms = some value) :
    (key, value) ∈ ms := by
  induction ms with
  | nil => exact absurd h (by simp)
  | cons m ms ih =>
    rw [get?] at h
    split at h
    next heq =>
      obtain rfl := Option.some.inj h
      rw [← heq]
      exact List.mem_cons_self
    · exact List.mem_cons_of_mem m (ih h)

/-- A name without a member has no value. -/
lemma get?_of_not_mem {ms : Members} (h : key ∉ ms.map Prod.fst) :
    get? key ms = none := by
  induction ms with
  | nil => rfl
  | cons m ms ih =>
    rw [List.map_cons, List.mem_cons, not_or] at h
    rw [get?, if_neg (Ne.symm h.1), ih h.2]

/-- A member with a new name comes last. -/
lemma put_of_not_mem {ms : Members} (h : key ∉ ms.map Prod.fst) :
    put key value ms = ms ++ [(key, value)] := by
  induction ms with
  | nil => rfl
  | cons m ms ih =>
    rw [List.map_cons, List.mem_cons, not_or] at h
    rw [put, if_neg (Ne.symm h.1), ih h.2, List.cons_append]

/-- Only the last value for a name stays. -/
lemma put_put (key : Text) (v value : Value) (ms : Members) :
    put key value (put key v ms) = put key value ms := by
  induction ms with
  | nil => simp [put]
  | cons m ms ih =>
    by_cases h : m.1 = key
    · simp [put, h]
    · simp [put, h, ih]

/-- The members are the new one and some of the old ones. -/
lemma mem_put {ms : Members} {m : Text × Value}
    (h : m ∈ put key value ms) : m = (key, value) ∨ m ∈ ms := by
  induction ms with
  | nil => exact Or.inl (List.mem_singleton.mp h)
  | cons p ms ih =>
    rw [put] at h
    split at h
    next heq =>
      rw [heq] at h
      exact (List.mem_cons.mp h).imp_right (List.mem_cons_of_mem p)
    · rcases List.mem_cons.mp h with rfl | h
      · exact Or.inr List.mem_cons_self
      · exact (ih h).imp_right (List.mem_cons_of_mem p)

/-- Different names stay different with one more. -/
lemma nodup_put {ms : Members} (h : (ms.map Prod.fst).Nodup) :
    ((put key value ms).map Prod.fst).Nodup := by
  induction ms with
  | nil => simp [put]
  | cons p ms ih =>
    obtain ⟨hp, hms⟩ := List.nodup_cons.mp h
    rw [put]
    split
    · exact h
    next hne =>
      refine List.nodup_cons.mpr ⟨fun hmem => ?_, ih hms⟩
      obtain ⟨m, hm, hname⟩ := List.mem_map.mp hmem
      rcases mem_put hm with rfl | hm
      · exact hne hname.symm
      · exact hp (hname ▸ List.mem_map_of_mem hm)

/-- Members taken one after another have different names. -/
lemma nodup_ofPairs (pairs : Members) :
    ((ofPairs pairs).map Prod.fst).Nodup := by
  have hfold : ∀ ms : Members, (ms.map Prod.fst).Nodup →
      ((pairs.foldl (fun ms p => put p.1 p.2 ms) ms).map Prod.fst).Nodup := by
    induction pairs with
    | nil => exact fun _ hms => hms
    | cons p pairs ih => exact fun _ hms => ih _ (nodup_put hms)
  exact hfold [] List.nodup_nil

/-- They are among those that were given. -/
lemma mem_of_mem_ofPairs {pairs : Members} {m : Text × Value}
    (h : m ∈ ofPairs pairs) : m ∈ pairs := by
  have hfold : ∀ ms : Members,
      m ∈ pairs.foldl (fun ms p => put p.1 p.2 ms) ms →
        m ∈ ms ∨ m ∈ pairs := by
    clear h
    induction pairs with
    | nil => exact fun _ hm => Or.inl hm
    | cons p pairs ih =>
      intro ms hm
      rcases ih _ hm with hm | hm
      · rcases mem_put hm with rfl | hm
        · exact Or.inr List.mem_cons_self
        · exact Or.inl hm
      · exact Or.inr (List.mem_cons_of_mem p hm)
  exact (hfold [] h).resolve_left List.not_mem_nil

/-- Members with different names, none of them known, come after the
known ones. -/
lemma foldl_put_of_nodup (pairs ms : Members)
    (h : ((ms ++ pairs).map Prod.fst).Nodup) :
    pairs.foldl (fun ms (k, v) => put k v ms) ms = ms ++ pairs := by
  induction pairs generalizing ms with
  | nil => rw [List.append_nil, List.foldl_nil]
  | cons p pairs ih =>
    obtain ⟨k, v⟩ := p
    have hk : k ∉ ms.map Prod.fst := by
      rw [List.map_append, List.map_cons] at h
      exact fun hmem => (List.nodup_append.mp h).2.2 _ hmem _
        List.mem_cons_self rfl
    simp only [List.foldl_cons]
    rw [put_of_not_mem hk, ih, List.append_assoc,
      List.singleton_append]
    rwa [List.append_assoc, List.singleton_append]

/-- Members with different names stay as they are. -/
theorem ofPairs_of_nodup {pairs : Members}
    (h : (pairs.map Prod.fst).Nodup) : ofPairs pairs = pairs :=
  foldl_put_of_nodup pairs [] h

end ApiBook.Members

namespace ApiBook.Json

/-- Values in which the members of each object have different names. -/
inductive Distinct : Value → Prop
  | null : Distinct .null
  | bool (b : Bool) : Distinct (.bool b)
  | number (n : Number) : Distinct (.number n)
  | text (s : Text) : Distinct (.text s)
  | list {vs : List Value} (h : ∀ v ∈ vs, Distinct v) : Distinct (.list vs)
  | object {ms : Members} (names : (ms.map Prod.fst).Nodup)
      (h : ∀ m ∈ ms, Distinct m.2) : Distinct (.object ms)

/-- The names of the members of such an object. -/
lemma Distinct.names {ms : Members} (h : Distinct (.object ms)) :
    (ms.map Prod.fst).Nodup := by
  cases h with
  | object names _ => exact names

/-- The values of the members of such an object. -/
lemma Distinct.of_mem {ms : Members} (h : Distinct (.object ms)) {k : Text}
    {v : Value} (hm : (k, v) ∈ ms) : Distinct v := by
  cases h with
  | object _ hms => exact hms _ hm

/-- An object stays such a value with one more. -/
lemma Distinct.put {ms : Members} (h : Distinct (.object ms)) (key : Text)
    {v : Value} (hv : Distinct v) : Distinct (.object (Members.put key v ms)) :=
  .object (Members.nodup_put h.names) fun m hm => by
    rcases Members.mem_put hm with rfl | hm
    · exact hv
    · exact h.of_mem hm

end ApiBook.Json
