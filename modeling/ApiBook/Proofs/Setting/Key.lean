/-
Scalars as the keys of tables.

* `Number.Equal`: numbers of one value, whatever their kinds; `equal_iff`:
  they are the numbers that are at most each other;
* `Scalar.same_refl`, `Scalar.same_symm`, `Scalar.same_trans`: being the
  same key is an equivalence;
* `Scalar.same_text_right`: only a text is the same key as a text.
-/
import ApiBook.Setting.Basic
import Mathlib.Tactic.Common
import Mathlib.Tactic.LinearCombination

namespace ApiBook

namespace Number

/-! ### Numbers of one value -/

variable {m n k : Number}

/-- Numbers of one value: the same infinity, or equal quotients. -/
inductive Equal : Number → Number → Prop
  | infinite (negative : Bool) :
      Equal (.float (.infinite negative)) (.float (.infinite negative))
  | quotient {m n : Number} {a c : ℤ} {b d : ℕ}
      (hm : m.fraction? = some (a, b)) (hn : n.fraction? = some (c, d))
      (h : a * d = c * b) : Equal m n

/-- The quotient that a number is has a divisor. -/
lemma ne_zero_of_fraction? {a : ℤ} {b : ℕ} (h : m.fraction? = some (a, b)) :
    b ≠ 0 := by
  match m, h with
  | .whole i, h =>
    obtain ⟨-, rfl⟩ := Prod.mk.inj (Option.some.inj h)
    exact one_ne_zero
  | .float (.finite negative m e _), h =>
    obtain ⟨-, rfl⟩ := Prod.mk.inj (Option.some.inj h)
    exact (Nat.pow_pos two_pos).ne'

lemma Equal.symm (h : m.Equal n) : n.Equal m := by
  cases h with
  | infinite negative => exact .infinite negative
  | quotient hm hn h => exact .quotient hn hm h.symm

lemma Equal.trans (h : m.Equal n) (h' : n.Equal k) : m.Equal k := by
  cases h with
  | infinite negative => exact h'
  | @quotient _ _ a c b d hm hn h =>
    cases h' with
    | infinite negative => exact nomatch hn
    | @quotient _ _ c' e d' f hn' hk h' =>
      obtain ⟨rfl, rfl⟩ := Prod.mk.inj (Option.some.inj (hn.symm.trans hn'))
      have hd : (d : ℤ) ≠ 0 :=
        Int.natCast_ne_zero.mpr (ne_zero_of_fraction? hn)
      refine .quotient hm hk (mul_right_cancel₀ hd ?_)
      linear_combination (f : ℤ) * h + (b : ℤ) * h'

/-- Numbers that are quotients are compared as such. -/
lemma le_of_fraction? {a c : ℤ} {b d : ℕ} (hm : m.fraction? = some (a, b))
    (hn : n.fraction? = some (c, d)) : m.le n = decide (a * d ≤ c * b) := by
  have hlt : n.lt m = decide (c * b < a * d) := by
    rw [lt.eq_def]
    split
    next => exact nomatch hn
    next => exact nomatch hm
    next => exact nomatch hn
    next => exact nomatch hn
    next => exact nomatch hm
    next => exact nomatch hn
    next => exact nomatch hm
    next => rw [hm, hn]
  rw [le.eq_def]
  split
  next => exact nomatch hm
  next => exact nomatch hn
  next => rw [hlt, ← decide_not, decide_eq_decide, not_lt]

/-- What is no quotient and at most another number, which is at most it, is
the same infinity. -/
lemma equal_of_fraction?_eq_none (hm : m.fraction? = none)
    (h : m.le n = true) (h' : n.le m = true) : m.Equal n := by
  cases m with
  | whole i => exact absurd hm (by simp [fraction?])
  | float x =>
    cases x with
    | nan => exact nomatch h
    | finite negative m e canonical =>
      exact absurd hm (by simp [fraction?])
    | infinite negative =>
      have heq : n = .float (.infinite negative) := by
        rcases n with _ | _ | (_ | _) | _ <;> cases negative <;>
          simp_all [le, lt]
      exact heq ▸ .infinite negative

/-- Numbers of one value are those that are at most each other. -/
lemma equal_iff : m.Equal n ↔ m.le n = true ∧ n.le m = true := by
  constructor
  · intro h
    cases h with
    | infinite negative => cases negative <;> exact ⟨rfl, rfl⟩
    | quotient hm hn h =>
      rw [le_of_fraction? hm hn, le_of_fraction? hn hm, h]
      exact ⟨decide_eq_true le_rfl, decide_eq_true le_rfl⟩
  · rintro ⟨h, h'⟩
    cases hm : m.fraction? with
    | none => exact equal_of_fraction?_eq_none hm h h'
    | some p =>
      cases hn : n.fraction? with
      | none => exact (equal_of_fraction?_eq_none hn h' h).symm
      | some q =>
        rw [le_of_fraction? hm hn, decide_eq_true_iff] at h
        rw [le_of_fraction? hn hm, decide_eq_true_iff] at h'
        exact .quotient hm hn (le_antisymm h h')

end Number

namespace Scalar

/-! ### The same key -/

variable {a b c : Scalar}

/-- The same keys are one scalar, or count as numbers of one value. -/
lemma same_iff : a.same b = true ↔ a = b ∨
    ∃ m n, a.toNumber? = some m ∧ b.toNumber? = some n ∧ m.Equal n := by
  rw [same, Bool.or_eq_true, decide_eq_true_iff]
  refine or_congr_right ?_
  cases a.toNumber? with
  | none => simp
  | some m => cases b.toNumber? <;> simp [Number.equal_iff]

lemma same_refl (a : Scalar) : a.same a = true := same_iff.mpr (.inl rfl)

lemma same_symm (h : a.same b = true) : b.same a = true := by
  rw [same_iff] at h ⊢
  rcases h with rfl | ⟨m, n, ha, hb, h⟩
  · exact .inl rfl
  · exact .inr ⟨n, m, hb, ha, h.symm⟩

lemma same_trans (h : a.same b = true) (h' : b.same c = true) :
    a.same c = true := by
  rw [same_iff] at h h' ⊢
  rcases h with rfl | ⟨m, n, ha, hb, h⟩
  · exact h'
  · rcases h' with rfl | ⟨n', k, hb', hc, h'⟩
    · exact .inr ⟨m, n, ha, hb, h⟩
    · obtain rfl := Option.some.inj (hb.symm.trans hb')
      exact .inr ⟨m, k, ha, hc, h.trans h'⟩

/-- The same keys are the same as the same others. -/
lemma same_congr (h : a.same b = true) (c : Scalar) : a.same c = b.same c :=
  Bool.eq_iff_iff.mpr ⟨same_trans (same_symm h), same_trans h⟩

/-- The same keys are what the same others are the same as. -/
lemma same_congr_right (h : a.same b = true) (c : Scalar) :
    c.same a = c.same b :=
  Bool.eq_iff_iff.mpr
    ⟨fun hc => same_trans hc h, fun hc => same_trans hc (same_symm h)⟩

/-- Only a text is the same key as a text, and only the same one. -/
lemma same_text_right (k : Scalar) (s : Text) :
    k.same (.text s) = decide (k = .text s) := by
  cases k <;> simp [same, toNumber?]

end Scalar

end ApiBook
