/-
Stable sorting by a key.

* `pairwise_mergeSort_of_pairwise`: elements that count as equal keep the
  relation in which the list had them;
* `pairwise_mergeSort_key`: a list sorted by a key is increasing in the
  key, and among equal keys as the list was before;
* `pairwise_lt_of_nodup`: a list sorted by a key that tells its elements
  apart is strictly increasing;
* `exists_block`: where a list is increasing in a key, the elements with
  one key stand together.
-/
import Mathlib.Data.List.Sort
import Mathlib.Data.Prod.Lex

namespace ApiBook.Order

variable {α : Type*}

/-- A sort is stable: what counts as equal stays in the order of the
list. -/
lemma pairwise_mergeSort_of_pairwise (le : α → α → Bool)
    (trans : ∀ a b c, le a b → le b c → le a c)
    (total : ∀ a b, le a b || le b a) {R : α → α → Prop} {l : List α}
    (h : l.Pairwise R) :
    (l.mergeSort le).Pairwise fun a b => le a b ∧ (le b a → R a b) := by
  -- the list with its positions, sorted by `le` and then by position
  have hsorted := List.pairwise_mergeSort (List.zipIdxLE_trans trans)
    (List.zipIdxLE_total total) l.zipIdx
  have hnodup : (l.zipIdx.mergeSort (List.zipIdxLE le)).Nodup :=
    (List.mergeSort_perm _ _).nodup_iff.mpr
      (List.Nodup.of_map Prod.snd (by simpa using List.nodup_range'))
  rw [← List.mergeSort_zipIdx, List.pairwise_map]
  refine (hsorted.and hnodup).imp_of_mem ?_
  rintro ⟨a, i⟩ ⟨b, j⟩ ha hb ⟨hle, hne⟩
  rw [List.mem_mergeSort, List.mem_zipIdx_iff_getElem?] at ha hb
  obtain ⟨hi, hai⟩ := List.getElem?_eq_some_iff.mp ha
  obtain ⟨hj, hbj⟩ := List.getElem?_eq_some_iff.mp hb
  dsimp only at hi hj hai hbj ⊢
  simp only [List.zipIdxLE, Bool.if_false_right, Bool.and_eq_true,
    decide_eq_true_eq] at hle
  refine ⟨hle.1, fun hba => ?_⟩
  have hij : i ≤ j := by simpa [hba] using hle.2
  have hne' : i ≠ j := by
    rintro rfl
    exact hne (by rw [← hai, ← hbj])
  rw [← hai, ← hbj]
  exact List.pairwise_iff_getElem.mp h i j hi hj (by omega)

/-- A list sorted by a key is increasing in the key, and elements with
equal keys stay as they were. -/
lemma pairwise_mergeSort_key {κ : Type*} [LinearOrder κ] (key : α → κ)
    {R : α → α → Prop} {l : List α} (h : l.Pairwise R) :
    (l.mergeSort fun a b => key a ≤ key b).Pairwise fun a b =>
      key a ≤ key b ∧ (key a = key b → R a b) := by
  have hsort := pairwise_mergeSort_of_pairwise
    (fun a b => decide (key a ≤ key b))
    (fun a b c hab hbc => by
      simp only [decide_eq_true_eq] at hab hbc ⊢
      exact hab.trans hbc)
    (fun a b => by
      simp only [Bool.or_eq_true, decide_eq_true_eq]
      exact le_total _ _) h
  refine hsort.imp fun ⟨hle, hR⟩ => ?_
  simp only [decide_eq_true_eq] at hle hR
  exact ⟨hle, fun heq => hR heq.ge⟩

/-- A list sorted by a key that tells its elements apart is strictly
increasing in the key. -/
lemma pairwise_lt_of_nodup {κ : Type*} [LinearOrder κ] (key : α → κ)
    {l : List α} (h : (l.map key).Nodup) :
    (l.mergeSort fun a b => key a ≤ key b).Pairwise fun a b =>
      key a < key b := by
  have hne : l.Pairwise fun a b => key a ≠ key b := List.pairwise_map.mp h
  refine (pairwise_mergeSort_key key hne).imp fun ⟨hle, hne'⟩ => ?_
  exact hle.lt_of_ne fun heq => hne' heq heq

/-- Where a list is increasing in a key, the elements with one key form a
block: the others stand before it or after it. -/
lemma exists_block {κ : Type*} [LinearOrder κ] (key : α → κ) {l : List α}
    (h : l.Pairwise fun a b => key a ≤ key b) (k : κ) {p : α → Bool}
    (hp : ∀ a ∈ l, p a ↔ key a = k) :
    ∃ before after, l = before ++ l.filter p ++ after ∧
      ∀ a ∈ before ++ after, ¬ p a := by
  refine ⟨l.filter fun a => key a < k, l.filter fun a => k < key a, ?_, ?_⟩
  · induction l with
    | nil => rfl
    | cons a l ih =>
      obtain ⟨ha, hl⟩ := List.pairwise_cons.mp h
      obtain ⟨hpa, hpl⟩ := List.forall_mem_cons.mp hp
      have ih := ih hl hpl
      -- what the first key is not below, the others are not below either
      have hbelow : k ≤ key a → l.filter (fun b => key b < k) = [] := by
        intro hk
        refine List.filter_eq_nil_iff.mpr fun b hb => ?_
        simpa using hk.trans (ha b hb)
      rcases lt_trichotomy (key a) k with hlt | heq | hgt
      · have hne : p a = false := by
          rw [← Bool.not_eq_true, hpa]
          exact hlt.ne
        simpa [hlt, hne, hlt.not_gt] using ih
      · rw [hbelow heq.ge] at ih
        simpa [heq, hpa.mpr heq, hbelow heq.ge] using ih
      · have hne : p a = false := by
          rw [← Bool.not_eq_true, hpa]
          exact hgt.ne'
        have hat : l.filter p = [] := by
          refine List.filter_eq_nil_iff.mpr fun b hb => ?_
          rw [hpl b hb]
          exact (hgt.trans_le (ha b hb)).ne'
        rw [hbelow hgt.le, hat] at ih
        simpa [hgt, hne, hgt.not_gt, hbelow hgt.le, hat] using ih
  · intro a ha
    rcases List.mem_append.mp ha with ha | ha
    · obtain ⟨hmem, hlt⟩ := List.mem_filter.mp ha
      rw [hp a hmem]
      exact (of_decide_eq_true hlt).ne
    · obtain ⟨hmem, hgt⟩ := List.mem_filter.mp ha
      rw [hp a hmem]
      exact (of_decide_eq_true hgt).ne'

end ApiBook.Order
