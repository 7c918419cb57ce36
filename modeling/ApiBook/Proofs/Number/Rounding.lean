/-
Rounding to floating-point numbers depends on exact values alone.

* `floorLog2_eq_log`: the power of two at or just below a quotient;
* `ofRatio_congr`: equal quotients have the same nearest number;
* `ofRatio_exact`: a number is the nearest one to itself;
* `ofDecimal_mul_pow`: zeros at the end of a decimal change nothing;
* `ofDecimal_shortest`: the shortest decimal of a number reads back as the
  number.
-/
import ApiBook.Number.Shortest
import Mathlib.Algebra.Order.Field.Power
import Mathlib.Data.Int.Log
import Mathlib.Data.Rat.Floor
import Mathlib.Tactic.Linarith
import Mathlib.Tactic.Positivity
import Mathlib.Tactic.Ring

namespace ApiBook.Binary64

variable {num den : ℕ} {k : ℤ}

/-! ### Powers of two -/

/-- Factors of a power are positive. -/
lemma power_pos {base : ℕ} (h : 0 < base) (e : ℤ) : 0 < power base e :=
  Nat.pow_pos h

/-- Only powers with positive exponents belong to the numerator. -/
lemma power_of_nonpos {e : ℤ} (h : e ≤ 0) (base : ℕ) : power base e = 1 := by
  rw [power, Int.toNat_of_nonpos h, Nat.pow_eq, pow_zero]

/-- A power of two is the quotient of its factors. -/
lemma twoPow_cast (k : ℤ) :
    ((twoPow k : ℕ) : ℚ) = 2 ^ k * (twoPow (-k) : ℕ) := by
  rcases k with n | n
  · simp [twoPow, power]
  · have h : (2 : ℚ) ^ (n + 1) ≠ 0 := by positivity
    simp [twoPow, power, zpow_negSucc, h]

/-- A power of two that is greater by two is four times as great. -/
lemma four_mul_twoPow_le {n : ℕ} (hk : 0 ≤ k) (h : k + 2 ≤ n) :
    4 * twoPow k ≤ 2 ^ n :=
  calc 4 * twoPow k = 2 ^ (2 + k.toNat) := (pow_add 2 2 k.toNat).symm
    _ ≤ 2 ^ n := Nat.pow_le_pow_right two_pos (by omega)

/-- Powers of two are compared with quotients without division. -/
lemma mul_twoPow_le_iff (hden : 0 < den) :
    den * twoPow k ≤ num * twoPow (-k) ↔ (2 : ℚ) ^ k ≤ num / den := by
  have hfactor : (0 : ℚ) < (twoPow (-k) : ℕ) := by
    exact_mod_cast power_pos two_pos (-k)
  have hden' : (0 : ℚ) < den := by exact_mod_cast hden
  rw [le_div_iff₀ hden', ← mul_le_mul_iff_of_pos_right hfactor,
    mul_right_comm, ← twoPow_cast, ← Nat.cast_mul, ← Nat.cast_mul,
    Nat.cast_le, mul_comm den]

/-- Powers of two up to a number have exponents up to its logarithm. -/
lemma two_zpow_le_iff {q : ℚ} (hq : 0 < q) :
    (2 : ℚ) ^ k ≤ q ↔ k ≤ Int.log 2 q := by
  exact_mod_cast Int.zpow_le_iff_le_log (b := 2) one_lt_two hq

/-- Powers of two above a number have exponents above its logarithm. -/
lemma lt_two_zpow_iff {q : ℚ} (hq : 0 < q) :
    q < (2 : ℚ) ^ k ↔ Int.log 2 q < k := by
  rw [← not_le, two_zpow_le_iff hq, not_le]

/-- A positive number lies between the powers of two around its
logarithm. -/
lemma two_zpow_log2_le {n : ℕ} (h : 0 < n) :
    (2 : ℚ) ^ (n.log2 : ℤ) ≤ n ∧ (n : ℚ) < 2 ^ ((n.log2 : ℤ) + 1) := by
  constructor
  · exact_mod_cast Nat.log2_self_le h.ne'
  · exact_mod_cast Nat.lt_log2_self (n := n)

/-- The power of two at or just below a positive quotient. -/
lemma floorLog2_eq_log (hnum : 0 < num) (hden : 0 < den) :
    floorLog2 num den = Int.log 2 (num / den : ℚ) := by
  have hden' : (0 : ℚ) < den := by exact_mod_cast hden
  have hq : (0 : ℚ) < num / den := by positivity
  set k : ℤ := (num.log2 : ℤ) - (den.log2 : ℤ) with hk
  obtain ⟨hnum_le, hnum_lt⟩ := two_zpow_log2_le hnum
  obtain ⟨hden_le, hden_lt⟩ := two_zpow_log2_le hden
  have hlow : k - 1 ≤ Int.log 2 (num / den : ℚ) := by
    rw [← two_zpow_le_iff hq, le_div_iff₀ hden']
    calc (2 : ℚ) ^ (k - 1) * den
        ≤ 2 ^ (k - 1) * 2 ^ ((den.log2 : ℤ) + 1) := by gcongr
      _ = 2 ^ (num.log2 : ℤ) := by
          rw [← zpow_add₀ two_ne_zero]
          congr 1
          omega
      _ ≤ num := hnum_le
  have hhigh : Int.log 2 (num / den : ℚ) < k + 1 := by
    rw [← lt_two_zpow_iff hq, div_lt_iff₀ hden']
    calc (num : ℚ) < 2 ^ ((num.log2 : ℤ) + 1) := hnum_lt
      _ = 2 ^ (k + 1) * 2 ^ (den.log2 : ℤ) := by
          rw [← zpow_add₀ two_ne_zero]
          congr 1
          omega
      _ ≤ 2 ^ (k + 1) * den := by gcongr
  rw [floorLog2, ← hk]
  split
  next h =>
    rw [mul_twoPow_le_iff hden, two_zpow_le_iff hq] at h
    omega
  next h =>
    rw [mul_twoPow_le_iff hden, two_zpow_le_iff hq] at h
    omega

/-! ### Quotients -/

/-- A common factor changes nothing about the nearest whole number. -/
lemma nearestEven_mul {c : ℕ} (hc : 0 < c) (num den : ℕ) :
    nearestEven (c * num) (c * den) = nearestEven num den := by
  have hlt : ∀ {a b : ℕ}, c * a < c * b ↔ a < b := fun {a b} =>
    Nat.mul_lt_mul_left hc
  simp only [nearestEven, Nat.mul_div_mul_left _ _ hc,
    Nat.mul_mod_mul_left, Nat.mul_left_comm 2 c, hlt]

/-- A common factor changes nothing about the nearest number. -/
lemma ofRatio_mul (negative : Bool) {c : ℕ} (hc : 0 < c) (hden : 0 < den)
    (num : ℕ) :
    ofRatio negative (c * num) (c * den) = ofRatio negative num den := by
  rcases Nat.eq_zero_or_pos num with rfl | hnum
  · rw [Nat.mul_zero, ofRatio, if_pos rfl, ofRatio, if_pos rfl]
  · have hlog : floorLog2 (c * num) (c * den) = floorLog2 num den := by
      have hc' : (c : ℚ) ≠ 0 := by exact_mod_cast hc.ne'
      rw [floorLog2_eq_log (Nat.mul_pos hc hnum) (Nat.mul_pos hc hden),
        floorLog2_eq_log hnum hden, Nat.cast_mul, Nat.cast_mul,
        mul_div_mul_left _ _ hc']
    rw [ofRatio, if_neg (Nat.mul_pos hc hnum).ne', ofRatio, if_neg hnum.ne',
      hlog]
    simp only [Nat.mul_assoc, nearestEven_mul hc]

/-- Equal quotients have the same nearest number. -/
lemma ofRatio_congr (negative : Bool) {num' den' : ℕ} (hden : 0 < den)
    (hden' : 0 < den') (h : num * den' = num' * den) :
    ofRatio negative num den = ofRatio negative num' den' := by
  rw [← ofRatio_mul negative hden' hden num, Nat.mul_comm den' num, h,
    Nat.mul_comm den' den, Nat.mul_comm num' den,
    ofRatio_mul negative hden hden' num']

/-- Infinity is the nearest number to a quotient beyond the greatest
number. -/
lemma ofRatio_of_large (negative : Bool) (hnum : 0 < num) (hden : 0 < den)
    {n : ℕ} (hn : 1024 ≤ n) (h : den * 2 ^ n ≤ num) :
    ofRatio negative num den = .infinite negative := by
  have hlog : (n : ℤ) ≤ floorLog2 num den := by
    have hden' : (0 : ℚ) < den := by exact_mod_cast hden
    rw [floorLog2_eq_log hnum hden, ← two_zpow_le_iff (by positivity),
      le_div_iff₀ hden', mul_comm]
    exact_mod_cast h
  have hparts : ∀ (m : ℕ) (e : ℤ), 972 ≤ e →
      ofParts negative m e = .infinite negative := by
    intro m e he
    have hno : ¬ IsCanonical m e := by
      rw [IsCanonical]
      omega
    rw [ofParts, dif_neg hno]
  have he : 972 ≤ max (floorLog2 num den - 52) (-1074) := by omega
  rw [ofRatio, if_neg hnum.ne']
  dsimp only
  split
  · exact hparts _ _ (by omega)
  · exact hparts _ _ he

/-- Zero is the nearest whole number to a quotient below one half. -/
lemma nearestEven_of_small (h : 2 * num < den) : nearestEven num den = 0 := by
  rw [nearestEven, Nat.div_eq_of_lt (by omega), Nat.mod_eq_of_lt (by omega),
    if_pos h]

/-- Zero is the nearest number to a quotient below half of the least
number. -/
lemma ofRatio_of_small (negative : Bool) (hnum : 0 < num) (hden : 0 < den)
    {n : ℕ} (hn : 1076 ≤ n) (h : num * 2 ^ n ≤ den) :
    ofRatio negative num den = zero negative := by
  have hlog : floorLog2 num den < 1 - (n : ℤ) := by
    have hnum' : (0 : ℚ) < num := by exact_mod_cast hnum
    have hden' : (0 : ℚ) < den := by exact_mod_cast hden
    have h' : (num : ℚ) * 2 ^ n ≤ den := by exact_mod_cast h
    rw [floorLog2_eq_log hnum hden, ← lt_two_zpow_iff (by positivity),
      div_lt_iff₀ hden', zpow_sub₀ two_ne_zero, zpow_natCast, zpow_one,
      div_mul_eq_mul_div, lt_div_iff₀ (by positivity)]
    linarith
  have he : max (floorLog2 num den - 52) (-1074) = -1074 := by omega
  have hsmall : 2 * (num * twoPow 1074) < den * twoPow (-1074) := by
    have hone : twoPow (-1074) = 1 := rfl
    have hfour : 4 * twoPow 1074 ≤ 2 ^ n :=
      four_mul_twoPow_le (by decide) (by omega)
    have hpos : 0 < num * twoPow 1074 :=
      Nat.mul_pos hnum (power_pos two_pos _)
    have hle := (Nat.mul_le_mul_left num hfour).trans h
    rw [Nat.mul_left_comm] at hle
    rw [hone]
    omega
  have hzero : (0 : ℕ) ≠ mantissaLimit := by decide
  rw [ofRatio, if_neg hnum.ne', he]
  simp only [neg_neg, nearestEven_of_small hsmall, if_neg hzero, zero]

/-- A number is the nearest one to itself. -/
lemma ofRatio_exact (negative : Bool) {m : ℕ} {e : ℤ} (h : IsCanonical m e)
    (hm : 0 < m) :
    ofRatio negative (m * twoPow e) (twoPow (-e)) =
      .finite negative m e h := by
  have hnum : 0 < m * twoPow e := Nat.mul_pos hm (power_pos two_pos e)
  have hden : 0 < twoPow (-e) := power_pos two_pos (-e)
  have hquotient : ((m * twoPow e : ℕ) / (twoPow (-e) : ℕ) : ℚ) =
      m * 2 ^ e := by
    have hden' : ((twoPow (-e) : ℕ) : ℚ) ≠ 0 := by exact_mod_cast hden.ne'
    rw [div_eq_iff hden', Nat.cast_mul, twoPow_cast, mul_assoc]
  have hlog : floorLog2 (m * twoPow e) (twoPow (-e)) = (m.log2 : ℤ) + e := by
    obtain ⟨hle, hlt⟩ := two_zpow_log2_le hm
    have hpos : (0 : ℚ) < m * 2 ^ e := by positivity
    have hge : (m.log2 : ℤ) + e ≤ Int.log 2 (m * 2 ^ e : ℚ) := by
      rw [← two_zpow_le_iff hpos, zpow_add₀ two_ne_zero]
      gcongr
    have hlt' : Int.log 2 (m * 2 ^ e : ℚ) < (m.log2 : ℤ) + e + 1 := by
      rw [← lt_two_zpow_iff hpos, add_right_comm, zpow_add₀ two_ne_zero]
      gcongr
    rw [floorLog2_eq_log hnum hden, hquotient]
    omega
  have hmax : max ((m.log2 : ℤ) + e - 52) (-1074) = e := by
    rcases h with ⟨rfl, hlimit⟩ | ⟨hlow, -, hfull, hlimit⟩
    · have : m.log2 < 53 := (Nat.log2_lt hm.ne').mpr hlimit
      omega
    · have hlt : m.log2 < 53 := (Nat.log2_lt hm.ne').mpr hlimit
      have hge : 52 ≤ m.log2 := (Nat.le_log2 hm.ne').mpr hfull
      omega
  have hnearest : nearestEven (m * twoPow e * twoPow (-e))
      (twoPow (-e) * twoPow e) = m := by
    have hpos : 0 < twoPow (-e) * twoPow e :=
      Nat.mul_pos hden (power_pos two_pos e)
    have hmul : m * twoPow e * twoPow (-e) =
        (twoPow (-e) * twoPow e) * m := by ring
    rw [hmul, nearestEven, Nat.mul_div_cancel_left _ hpos,
      Nat.mul_mod_right, if_pos (by omega)]
  have hne : m ≠ mantissaLimit := by
    rcases h with ⟨-, hlimit⟩ | ⟨-, -, -, hlimit⟩ <;> omega
  rw [ofRatio, if_neg hnum.ne', hlog, hmax]
  simp only [hnearest, if_neg hne, ofParts, dif_pos h]

/-! ### Decimals -/

/-- Decimals that are out of reach need no arithmetic, but arithmetic gives
the same for them. -/
lemma ofDecimal_eq_ofRatio (negative : Bool) {digits : ℕ} (h : 0 < digits)
    (e : ℤ) :
    ofDecimal negative digits e =
      ofRatio negative (digits * power 10 e) (power 10 (-e)) := by
  have hnum : 0 < digits * power 10 e := Nat.mul_pos h (power_pos (by decide) e)
  have hden : 0 < power 10 (-e) := power_pos (by decide) (-e)
  -- ten is more than three doublings
  have hten : ∀ n : ℕ, 2 ^ (3 * n) ≤ 10 ^ n := fun n => by
    rw [pow_mul]
    exact Nat.pow_le_pow_left (by decide) n
  rw [ofDecimal, if_neg h.ne']
  split
  next hlarge =>
    refine (ofRatio_of_large negative hnum hden (n := 3 * e.toNat) (by omega)
      ?_).symm
    rw [power_of_nonpos (by omega), Nat.one_mul]
    exact (hten _).trans (Nat.le_mul_of_pos_left _ h)
  next =>
    split
    next hsmall =>
      refine (ofRatio_of_small negative hnum hden
        (n := 3 * (-e).toNat - (digits.log2 + 1)) (by omega) ?_).symm
      rw [power_of_nonpos (by omega), Nat.mul_one]
      calc digits * 2 ^ (3 * (-e).toNat - (digits.log2 + 1))
          ≤ 2 ^ (digits.log2 + 1) *
              2 ^ (3 * (-e).toNat - (digits.log2 + 1)) :=
            Nat.mul_le_mul_right _ Nat.lt_log2_self.le
        _ = 2 ^ (3 * (-e).toNat) := by
            rw [← pow_add, Nat.add_sub_cancel' (by omega)]
        _ ≤ power 10 (-e) := hten _
    · rfl

/-- A zero at the end of the digits of a decimal changes nothing. -/
lemma ofDecimal_mul_ten (negative : Bool) (digits : ℕ) (e : ℤ) :
    ofDecimal negative (10 * digits) e =
      ofDecimal negative digits (e + 1) := by
  rcases Nat.eq_zero_or_pos digits with rfl | h
  · rw [Nat.mul_zero, ofDecimal, if_pos rfl, ofDecimal, if_pos rfl]
  · have hpower : 10 * power 10 e * power 10 (-(e + 1)) =
        power 10 (e + 1) * power 10 (-e) := by
      have hexp : 1 + e.toNat + (-(e + 1)).toNat =
          (e + 1).toNat + (-e).toNat := by omega
      have hpow := congrArg (Nat.pow 10) hexp
      rw [Nat.pow_eq, Nat.pow_eq, pow_add, pow_add, pow_add, pow_one] at hpow
      exact hpow
    rw [ofDecimal_eq_ofRatio negative (by omega) e,
      ofDecimal_eq_ofRatio negative h (e + 1)]
    refine ofRatio_congr negative (power_pos (by decide) _)
      (power_pos (by decide) _) ?_
    calc 10 * digits * power 10 e * power 10 (-(e + 1))
        = digits * (10 * power 10 e * power 10 (-(e + 1))) := by ring
      _ = digits * power 10 (e + 1) * power 10 (-e) := by
          rw [hpower, Nat.mul_assoc]

/-- Zeros at the end of the digits of a decimal change nothing. -/
lemma ofDecimal_mul_pow (negative : Bool) (digits n : ℕ) (e : ℤ) :
    ofDecimal negative (digits * 10 ^ n) e =
      ofDecimal negative digits (e + n) := by
  induction n generalizing e with
  | zero => simp
  | succ n ih =>
    have hdigits : digits * 10 ^ (n + 1) = 10 * (digits * 10 ^ n) := by ring
    have hexp : e + 1 + n = e + (n + 1 : ℕ) := by omega
    rw [hdigits, ofDecimal_mul_ten, ih, hexp]

/-- A decimal without the zeros at its end reads the same. -/
lemma ofDecimal_trimmed (negative : Bool) (d : Scientific) (fuel : ℕ) :
    ofDecimal negative (d.trimmed fuel).digits (d.trimmed fuel).exponent =
      ofDecimal negative d.digits d.exponent := by
  induction fuel generalizing d with
  | zero => rw [Scientific.trimmed]
  | succ fuel ih =>
    rw [Scientific.trimmed]
    split
    next hzero =>
      have hdigits : 10 * (d.digits / 10) = d.digits := by omega
      rw [ih, ← ofDecimal_mul_ten, hdigits]
    · rfl

/-! ### Shortest decimals -/

/-- The exact decimal of a number reads back as the number. -/
lemma ofDecimal_exact {m : ℕ} {e : ℤ} (h : IsCanonical m e) (hm : 0 < m) :
    ofDecimal false (Scientific.exact m e).digits
      (Scientific.exact m e).exponent = .finite false m e h := by
  have hexact := ofRatio_exact false h hm
  have htwo : 0 < twoPow (-e) := power_pos two_pos (-e)
  rw [Scientific.exact]
  split
  next he =>
    have hone : twoPow (-e) = 1 := power_of_nonpos (by omega) 2
    rw [hone] at hexact
    rw [ofDecimal_eq_ofRatio false (Nat.mul_pos hm (power_pos two_pos e)),
      power_of_nonpos le_rfl, Nat.mul_one]
    exact hexact
  next he =>
    have hone : twoPow e = 1 := power_of_nonpos (by omega) 2
    have hfive : 0 < power 5 (-e) := power_pos (by decide) (-e)
    have hten : power 10 (-e) = power 5 (-e) * twoPow (-e) :=
      Nat.mul_pow 5 2 _
    rw [hone, Nat.mul_one] at hexact
    rw [ofDecimal_eq_ofRatio false (Nat.mul_pos hm hfive),
      power_of_nonpos (by omega : e ≤ 0), Nat.mul_one, hten, Nat.mul_comm m,
      ofRatio_mul false hfive htwo]
    exact hexact

/-- The shortest decimal of a number reads back as the number. -/
theorem ofDecimal_shortest {m : ℕ} {e : ℤ} (h : IsCanonical m e)
    (hm : 0 < m) :
    ofDecimal false (shortest m e).digits (shortest m e).exponent =
      .finite false m e h := by
  rw [shortest]
  cases hfound : (List.range 17).findSome? fun i : ℕ =>
      (Scientific.neighbours (ratio m e).1 (ratio m e).2
        (Scientific.floorLog10 (ratio m e).1 (ratio m e).2 - i)).find?
          fun d => ofDecimal false d.digits d.exponent = ofParts false m e with
  | none =>
    rw [Option.getD_none]
    exact ofDecimal_exact h hm
  | some d =>
    obtain ⟨i, -, hd⟩ := List.exists_of_findSome?_eq_some hfound
    have heq := List.find?_some hd
    rw [decide_eq_true_eq, ofParts, dif_pos h] at heq
    rw [Option.getD_some, heq]

/-! ### Signs -/

/-- A number with a sign in the place of its own. -/
def withSign (negative : Bool) : Binary64 → Binary64
  | nan => nan
  | infinite _ => infinite negative
  | finite _ m e h => finite negative m e h

/-- Rounding depends on the sign in nothing but the sign. -/
lemma ofParts_withSign (negative : Bool) (m : ℕ) (e : ℤ) :
    ofParts negative m e = (ofParts false m e).withSign negative := by
  rw [ofParts, ofParts]
  split <;> rfl

/-- Nor does the nearest number to a quotient. -/
lemma ofRatio_withSign (negative : Bool) (num den : ℕ) :
    ofRatio negative num den = (ofRatio false num den).withSign negative := by
  simp only [ofRatio, zero, ofParts_withSign negative, apply_ite (withSign _)]

/-- Nor does the nearest number to a decimal. -/
lemma ofDecimal_withSign (negative : Bool) (digits : ℕ) (e : ℤ) :
    ofDecimal negative digits e =
      (ofDecimal false digits e).withSign negative := by
  rcases Nat.eq_zero_or_pos digits with rfl | h
  · rw [ofDecimal, if_pos rfl, ofDecimal, if_pos rfl, zero, zero,
      ofParts_withSign]
  · rw [ofDecimal_eq_ofRatio negative h, ofDecimal_eq_ofRatio false h,
      ofRatio_withSign]

end ApiBook.Binary64
