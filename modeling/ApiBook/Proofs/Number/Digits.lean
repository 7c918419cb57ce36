/-
The digits of whole numbers in writing.

* `isDigit_of_mem_ofNat`: a number is written with digits only;
* `ofNat_eq_zero_or_cons`: without a zero in front, zero itself apart;
* `length_ofNat_le`: a number below a power of ten has no more digits
  than the exponent says; `toNat_lt_pow`: digits stand for a number below
  the power of ten that their number says;
* `isWritable_iff`: the numbers that can be written are below a power of
  ten; `isWritable_of_looseWhole`: so is what a text stands for.
-/
import ApiBook.Number.Decimal
import ApiBook.Number.Loose
import Mathlib.Tactic.Common
import Mathlib.Tactic.Ring

namespace ApiBook.Decimal

/-- The digits are digits. -/
lemma isDigit_digit {n : ℕ} (h : n < 10) : (digit n).isDigit := by
  have key : ∀ m < 10, (digit m).isDigit := by decide
  exact key n h

/-- Only the digit of zero is a zero. -/
lemma digit_ne_zero {n : ℕ} (h0 : n ≠ 0) (h : n < 10) : digit n ≠ '0' := by
  have key : ∀ m < 10, m ≠ 0 → digit m ≠ '0' := by decide
  exact key n h h0

/-- A number is written with digits only. -/
lemma isDigit_of_mem_ofNat {n : ℕ} {c : Char} (hc : c ∈ ofNat n) :
    c.isDigit := by
  induction n using Nat.strongRecOn with
  | _ n ih =>
    rw [ofNat] at hc
    split at hc
    next hn =>
      rw [List.mem_singleton] at hc
      rw [hc]
      exact isDigit_digit hn
    next hn =>
      rcases List.mem_append.mp hc with hc | hc
      · exact ih (n / 10) (by omega) hc
      · rw [List.mem_singleton] at hc
        rw [hc]
        exact isDigit_digit (by omega)

/-- A number is written without a zero in front, zero itself apart. -/
lemma ofNat_eq_zero_or_cons (n : ℕ) :
    ofNat n = ['0'] ∨ ∃ c cs, ofNat n = c :: cs ∧ c ≠ '0' := by
  induction n using Nat.strongRecOn with
  | _ n ih =>
    rw [ofNat]
    split
    next hn =>
      by_cases h0 : n = 0
      · exact Or.inl (by rw [h0]; rfl)
      · exact Or.inr ⟨digit n, [], rfl, digit_ne_zero h0 hn⟩
    next hn =>
      right
      rcases ih (n / 10) (by omega) with hz | ⟨c, cs, hcs, hc⟩
      · -- a number of two digits or more does not start like zero
        have hval := toNat_ofNat (n / 10)
        rw [hz] at hval
        have : toNat ['0'] = 0 := by decide
        omega
      · exact ⟨c, cs ++ [digit (n % 10)], by rw [hcs]; rfl, hc⟩

/-- A number below a power of ten has no more digits than the exponent
says. -/
lemma length_ofNat_le {n k : ℕ} (hk : 0 < k) (h : n < 10 ^ k) :
    (ofNat n).length ≤ k := by
  induction k generalizing n with
  | zero => exact absurd hk (by omega)
  | succ k ih =>
      rw [ofNat]
      split
      · simp
      next hn =>
        have hk' : 0 < k := by
          by_contra h0
          obtain rfl : k = 0 := by omega
          omega
        have hdiv : n / 10 < 10 ^ k := by
          rw [Nat.div_lt_iff_lt_mul (by omega)]
          calc n < 10 ^ (k + 1) := h
            _ = 10 ^ k * 10 := by ring
        have := ih hk' hdiv
        simp only [List.length_append, List.length_singleton]
        omega

/-- Digits stand for a number below the power of ten that their number
says. -/
lemma toNat_lt_pow {cs : List Char} (h : ∀ c ∈ cs, c.isDigit) :
    toNat cs < 10 ^ cs.length := by
  have hdigit : ∀ c : Char, c.isDigit → c.toNat - 48 < 10 := by
    intro c hc
    simp only [Char.isDigit, Bool.and_eq_true, decide_eq_true_eq] at hc
    have hnine : c.toNat ≤ 57 := hc.2
    omega
  -- each digit takes up one power more, whatever came before it
  have hfold : ∀ acc : ℕ, cs.foldl (fun acc c => 10 * acc + (c.toNat - 48)) acc
      < (acc + 1) * 10 ^ cs.length := by
    induction cs with
    | nil => simp
    | cons c cs ih =>
      obtain ⟨hc, hcs⟩ := List.forall_mem_cons.mp h
      intro acc
      have hc' := hdigit c hc
      calc (c :: cs).foldl (fun acc c => 10 * acc + (c.toNat - 48)) acc
          < (10 * acc + (c.toNat - 48) + 1) * 10 ^ cs.length := ih hcs _
        _ ≤ ((acc + 1) * 10) * 10 ^ cs.length :=
            Nat.mul_le_mul_right _ (by omega)
        _ = (acc + 1) * 10 ^ (c :: cs).length := by
            rw [List.length_cons]
            ring
  simpa [toNat] using hfold 0

end ApiBook.Decimal

namespace ApiBook.Number

/-- The numbers that can be written have few digits. -/
lemma isWritable_iff {i : ℤ} :
    isWritable i ↔ i.natAbs < 10 ^ digitLimit := by
  unfold isWritable
  -- the power is kept from being computed
  generalize digitLimit = limit
  exact decide_eq_true_iff

/-- A number can be written if digits within the limit stand for its
magnitude. -/
lemma isWritable_of_digits {i : ℤ} {cs : List Char}
    (hdigits : ∀ c ∈ cs, c.isDigit) (hlength : cs.length ≤ digitLimit)
    (h : i.natAbs = Decimal.toNat cs) : isWritable i := by
  rw [isWritable_iff, h]
  exact lt_of_lt_of_le (Decimal.toNat_lt_pow hdigits)
    (Nat.pow_le_pow_right (by decide) hlength)

/-! ### Loose writing -/

/-- A number of a magnitude in strict writing can be written again. -/
lemma isWritable_of_strictMagnitude {signs n : ℕ} {cs : List Char}
    (h : strictMagnitude signs cs = .ok n) {i : ℤ} (hi : i.natAbs = n) :
    isWritable i := by
  unfold strictMagnitude at h
  dsimp only at h
  split_ifs at h with _ _ hlong
  · exact isWritable_of_digits (List.forall_mem_singleton.mpr rfl)
      (by decide : ['0'].length ≤ digitLimit)
      (hi.trans (Except.ok.inj h).symm)
  · exact isWritable_of_digits (List.all_eq_true.mp List.all_takeWhile)
      ((Nat.le_add_left _ signs).trans (Nat.le_of_not_lt hlong))
      (hi.trans (Except.ok.inj h).symm)

/-- So can a number in strict writing. -/
lemma isWritable_of_strictWhole {cs : List Char} {i : ℤ}
    (h : strictWhole cs = .ok i) : isWritable i := by
  unfold strictWhole at h
  split at h
  next ds _ =>
    cases hn : strictMagnitude 1 ds with
    | error f => simp [hn, bind, Except.bind, Except.map] at h
    | ok n =>
      rw [hn] at h
      obtain rfl := Except.ok.inj h
      exact isWritable_of_strictMagnitude hn
        (by rw [Int.natAbs_neg, Int.natAbs_natCast])
  next ds _ =>
    cases hn : strictMagnitude 0 ds with
    | error f => simp [hn, bind, Except.bind, Except.map] at h
    | ok n =>
      rw [hn] at h
      obtain rfl := Except.ok.inj h
      exact isWritable_of_strictMagnitude hn (Int.natAbs_natCast n)

/-- So can a number in loose writing. -/
lemma isWritable_of_looseWhole {cs : List Char} {i : ℤ}
    (h : looseWhole cs = .ok i) : isWritable i := by
  rw [looseWhole] at h
  split at h
  · split at h
    next hloose =>
      obtain rfl := Except.ok.inj h
      obtain ⟨body, -, hbody⟩ := Option.map_eq_some_iff.mp hloose
      exact isWritable_of_strictWhole hbody
    · exact absurd h (by simp)
  · exact isWritable_of_strictWhole h

end ApiBook.Number
