/-
Settings in which no table holds a key twice.

* `Table.Keyed`: tables without a key twice; `Keyed.find?_of_mem`: in such a
  table the setting of an entry stands at its key;
* `Setting.Keyed`: settings in which all tables are such, however deep;
* `Keyed.fill_of_loops`: where nothing is met again, nothing is filled in.
-/
import ApiBook.Proofs.Setting.Table

namespace ApiBook

namespace Table

variable {es : Table}

/-- No key stands in a table twice. -/
def Keyed (es : Table) : Prop :=
  (es.map Prod.fst).Pairwise fun k l => l.same k = false

instance (es : Table) : Decidable es.Keyed := by
  unfold Keyed; infer_instance

/-- The setting of an entry is what stands at its key. -/
lemma Keyed.find?_of_mem {e : Scalar × Setting} (h : es.Keyed)
    (he : e ∈ es) : find? e.1 es = some e.2 := by
  induction es with
  | nil => exact absurd he List.not_mem_nil
  | cons e' es ih =>
    rw [find?]
    rcases List.mem_cons.mp he with rfl | he
    · rw [if_pos (Scalar.same_refl _)]
    · have hfirst : e.1.same e'.1 = false :=
        List.rel_of_pairwise_cons h (List.mem_map_of_mem he)
      rw [hfirst, if_neg Bool.false_ne_true, ih (List.Pairwise.of_cons h) he]

/-- What stands at a key is the setting of an entry. -/
lemma exists_mem_of_find? {key : Scalar} {v : Setting}
    (h : find? key es = some v) : ∃ e ∈ es, e.2 = v := by
  induction es with
  | nil => exact absurd h (by simp [find?])
  | cons e es ih =>
    rw [find?] at h
    split at h
    · exact ⟨e, List.mem_cons_self, Option.some.inj h⟩
    · obtain ⟨e', he', rfl⟩ := ih h
      exact ⟨e', List.mem_cons_of_mem _ he', rfl⟩

end Table

namespace Setting

/-- Settings in which no table holds a key twice. -/
inductive Keyed : Setting → Prop
  | scalar (s : Scalar) : Keyed (.scalar s)
  | list {vs : List Setting} (h : ∀ v ∈ vs, Keyed v) : Keyed (.list vs)
  | pair {v w : Setting} (first : Keyed v) (second : Keyed w) :
      Keyed (.pair v w)
  | set (members : List Scalar) : Keyed (.set members)
  | table {es : Table} (keys : es.Keyed) (h : ∀ e ∈ es, Keyed e.2) :
      Keyed (.table es)
  | shared (mark : Nat) {es : Table} (keys : es.Keyed)
      (h : ∀ e ∈ es, Keyed e.2) : Keyed (.shared mark es)
  | looped (mark : Nat) {vs : List Setting} (h : ∀ v ∈ vs, Keyed v) :
      Keyed (.looped mark vs)
  | again (mark : Nat) (isTable : Bool) : Keyed (.again mark isTable)

/-! ### What is met again -/

/-- Nothing is met again in items if it is in none of them. -/
lemma loopsOfItems_eq_nil_iff {vs : List Setting} :
    loopsOfItems vs = [] ↔ ∀ v ∈ vs, v.loops = [] := by
  induction vs with
  | nil => simp [loopsOfItems]
  | cons v vs ih => simp [loopsOfItems, ih]

/-- Nor in entries. -/
lemma loopsOfEntries_eq_nil_iff {es : Table} :
    loopsOfEntries es = [] ↔ ∀ e ∈ es, e.2.loops = [] := by
  induction es with
  | nil => simp [loopsOfEntries]
  | cons e es ih => simp [loopsOfEntries, ih]

/-- Items into which nothing is filled. -/
lemma fillItems_eq_self {mark : Nat} {whole : Setting} {vs : List Setting}
    (h : ∀ v ∈ vs, fill mark whole v = v) :
    fillItems mark whole vs = vs := by
  induction vs with
  | nil => rfl
  | cons v vs ih =>
    obtain ⟨hv, hvs⟩ := List.forall_mem_cons.mp h
    rw [fillItems, hv, ih hvs]

/-- Entries into which nothing is filled. -/
lemma fillEntries_eq_self {mark : Nat} {whole : Setting} {es : Table}
    (h : ∀ e ∈ es, fill mark whole e.2 = e.2) :
    fillEntries mark whole es = es := by
  induction es with
  | nil => rfl
  | cons e es ih =>
    obtain ⟨he, hes⟩ := List.forall_mem_cons.mp h
    rw [fillEntries, he, ih hes]

/-- Where nothing is met again, nothing is filled in. -/
lemma Keyed.fill_of_loops {v : Setting} (h : v.Keyed) (hloops : v.loops = [])
    (mark : Nat) (whole : Setting) : fill mark whole v = v := by
  induction h with
  | scalar s => rfl
  | list h ih =>
    rw [loops, loopsOfItems_eq_nil_iff] at hloops
    rw [fill, fillItems_eq_self fun v hv => ih v hv (hloops v hv)]
  | pair first second ih ih' =>
    rw [loops, List.append_eq_nil_iff] at hloops
    rw [fill, ih hloops.1, ih' hloops.2]
  | set members => rfl
  | table keys h ih =>
    rw [loops, loopsOfEntries_eq_nil_iff] at hloops
    rw [fill, fillEntries_eq_self fun e he => ih e he (hloops e he)]
  | shared m keys h ih =>
    rw [loops, loopsOfEntries_eq_nil_iff] at hloops
    rw [fill, fillEntries_eq_self fun e he => ih e he (hloops e he),
      ite_self]
  | looped m h ih =>
    rw [loops, loopsOfItems_eq_nil_iff] at hloops
    rw [fill, fillItems_eq_self fun v hv => ih v hv (hloops v hv), ite_self]
  | again m isTable => exact nomatch hloops

end Setting

end ApiBook
