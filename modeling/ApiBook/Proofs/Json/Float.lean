/-
Floating-point numbers in writing are read back.

* `unsigned?_pointed`, `unsigned?_scientific`: digits with a point among
  them, and with an exponent after them;
* `unsigned?_layout`: digits laid out around a point stand for the decimal
  that they were laid out from;
* `readScalar_float`: a floating-point number in writing is read as
  itself.
-/
import ApiBook.Json.Printer
import ApiBook.Proofs.Json.Numeral
import ApiBook.Proofs.Number.Rounding

namespace ApiBook

namespace Decimal

/-! ### Rows of digits -/

/-- The number that a row of digits and another one stand for together. -/
lemma toNat_append (cs ds : List Char) :
    toNat (cs ++ ds) = toNat cs * 10 ^ ds.length + toNat ds := by
  induction ds using List.reverseRecOn with
  | nil => simp [toNat]
  | append_singleton ds d ih =>
    have hlast : ∀ es : List Char,
        toNat (es ++ [d]) = 10 * toNat es + (d.toNat - 48) := fun es => by
      rw [toNat, List.foldl_append]
      rfl
    rw [← List.append_assoc, hlast, hlast, ih, List.length_append,
      List.length_singleton, pow_succ]
    ring

/-- Zeros stand for zero. -/
lemma toNat_zeros (n : ℕ) : toNat (List.replicate n '0') = 0 := by
  induction n with
  | zero => rfl
  | succ n ih =>
    rw [List.replicate_succ', toNat_append, ih]
    rfl

end Decimal

namespace Json

open Binary64 (layout exponentText ofDecimal)

variable {whole frac more : List Char}

/-! ### Parts of a number -/

/-- Digits that may stand before a point: one zero, or digits that start
with another one. -/
def IsWholePart (cs : List Char) : Prop :=
  cs = ['0'] ∨
    ∃ c ds, cs = c :: ds ∧ c ≠ '0' ∧ ∀ x ∈ c :: ds, x.isDigit

/-- Such digits start with a digit. -/
lemma IsWholePart.exists_cons (h : IsWholePart whole) :
    ∃ c cs, whole = c :: cs ∧ c.isDigit := by
  rcases h with rfl | ⟨c, ds, rfl, -, hdigits⟩
  · exact ⟨'0', [], rfl, by decide⟩
  · exact ⟨c, ds, rfl, hdigits c List.mem_cons_self⟩

/-- Such digits are read as the whole part of a number. -/
lemma wholePart?_append (h : IsWholePart whole) (hmore : NoDigit more) :
    wholePart? (whole ++ more) = some (whole, more) := by
  rcases h with rfl | ⟨c, ds, rfl, hc, hdigits⟩
  · rfl
  · obtain ⟨htake, hdrop⟩ := takeWhile_isDigit_append
      (fun x hx => hdigits x (List.mem_cons_of_mem c hx)) hmore
    rw [List.cons_append, wholePart?, if_neg hc,
      if_pos (hdigits c List.mem_cons_self), htake, hdrop]

/-- Digits after a point; no point for no digits. -/
def pointed (frac : List Char) : List Char :=
  if frac.isEmpty then [] else '.' :: frac

/-- Digits after a point are read as the fraction of a number. -/
lemma fraction_pointed (hfrac : ∀ c ∈ frac, c.isDigit)
    (hmore : NoDigit more) (hpoint : more.head? ≠ some '.') :
    fraction (pointed frac ++ more) = (frac, more) := by
  cases frac with
  | nil =>
    change fraction more = ([], more)
    unfold fraction
    split
    · exact absurd rfl hpoint
    · rfl
  | cons c frac =>
    obtain ⟨hc, hfrac⟩ := List.forall_mem_cons.mp hfrac
    obtain ⟨htake, hdrop⟩ := takeWhile_isDigit_append hfrac hmore
    change fraction ('.' :: c :: (frac ++ more)) = (c :: frac, more)
    rw [fraction, if_pos hc, htake, hdrop]

/-- No digit stands before a fraction. -/
lemma noDigit_pointed (hmore : NoDigit more) :
    NoDigit (pointed frac ++ more) := by
  cases frac with
  | nil => exact hmore
  | cons c frac =>
    intro x hx
    obtain rfl := Option.some.inj hx
    decide

/-- An exponent is written as a sign and at least one digit. -/
lemma exists_exponentText_eq (p : ℤ) :
    ∃ ds, exponentText p = (if p < 0 then '-' else '+') :: ds ∧
      ds ≠ [] ∧ (∀ c ∈ ds, c.isDigit) ∧ Decimal.toNat ds = p.natAbs := by
  obtain ⟨c, cs, hcs, -⟩ := exists_cons_ofNat p.natAbs
  have hdigits : ∀ c ∈ Decimal.ofNat p.natAbs, c.isDigit := fun _ =>
    Decimal.isDigit_of_mem_ofNat
  refine ⟨_, rfl, ?_⟩
  split
  · refine ⟨List.cons_ne_nil _ _,
      List.forall_mem_cons.mpr ⟨by decide, hdigits⟩, ?_⟩
    have hzero := Decimal.toNat_append ['0'] (Decimal.ofNat p.natAbs)
    rw [Decimal.toNat_ofNat, show Decimal.toNat ['0'] = 0 by decide,
      Nat.zero_mul, Nat.zero_add] at hzero
    exact hzero
  · exact ⟨by rw [hcs]; exact List.cons_ne_nil _ _, hdigits,
      Decimal.toNat_ofNat _⟩

/-- An exponent in writing is read as the exponent. -/
lemma exponent?_exponentText (p : ℤ) :
    exponent? ('e' :: exponentText p) = some (p, []) := by
  obtain ⟨ds, htext, hne, hdigits, hvalue⟩ := exists_exponentText_eq p
  obtain ⟨htake, hdrop⟩ := takeWhile_isDigit_append hdigits noDigit_nil
  rw [List.append_nil] at htake hdrop
  have hempty : ds.isEmpty = false := by simpa using hne
  by_cases hneg : p < 0
  · have hp : -(p.natAbs : ℤ) = p := by omega
    rw [htext, if_pos hneg]
    simp only [exponent?, signed, htake, hdrop, hempty, hvalue, hp,
      decide_true, Bool.true_or, if_true, Bool.false_eq_true, if_false]
  · have hp : (p.natAbs : ℤ) = p := by omega
    rw [htext, if_neg hneg]
    simp only [exponent?, signed, htake, hdrop, hempty, hvalue, hp,
      decide_true, Bool.true_or, if_true, Bool.false_eq_true, if_false]

/-! ### Numbers without a sign -/

/-- Digits with a point among them stand for a decimal. -/
lemma unsigned?_pointed (negative : Bool) (hwhole : IsWholePart whole)
    (hfrac : ∀ c ∈ frac, c.isDigit) (hne : frac ≠ []) :
    unsigned? negative (whole ++ pointed frac) =
      some (.float (ofDecimal negative (Decimal.toNat (whole ++ frac))
        (-frac.length)), []) := by
  have hempty : frac.isEmpty = false := by simpa using hne
  have hfraction := fraction_pointed hfrac noDigit_nil (by simp)
  have hpoint : NoDigit (pointed frac ++ []) := noDigit_pointed noDigit_nil
  rw [List.append_nil] at hfraction hpoint
  simp only [unsigned?, wholePart?_append hwhole hpoint, hfraction, exponent?,
    hempty, Bool.false_eq_true, if_false]

/-- Digits with an exponent after them stand for a decimal. -/
lemma unsigned?_scientific (negative : Bool) (hwhole : IsWholePart whole)
    (hfrac : ∀ c ∈ frac, c.isDigit) (p : ℤ) :
    unsigned? negative (whole ++ (pointed frac ++ 'e' :: exponentText p)) =
      some (.float (ofDecimal negative (Decimal.toNat (whole ++ frac))
        (p - frac.length)), []) := by
  have hletter : NoDigit ('e' :: exponentText p) := by
    intro x hx
    obtain rfl := Option.some.inj hx
    decide
  have hpoint : ('e' :: exponentText p).head? ≠ some '.' := by simp
  simp only [unsigned?, wholePart?_append hwhole (noDigit_pointed hletter),
    fraction_pointed hfrac hletter hpoint, exponent?_exponentText p]

/-! ### Layout -/

variable {D : ℕ}

/-- A positive number is written with digits of which the first is no
zero; so are those digits with more after them. -/
lemma isWholePart_ofNat_append (h : 0 < D) {zeros : List Char}
    (hzeros : ∀ c ∈ zeros, c.isDigit) :
    IsWholePart (Decimal.ofNat D ++ zeros) := by
  rcases Decimal.ofNat_eq_zero_or_cons D with hz | ⟨c, cs, hcs, hc⟩
  · have hvalue := Decimal.toNat_ofNat D
    rw [hz, show Decimal.toNat ['0'] = 0 by decide] at hvalue
    omega
  · refine Or.inr ⟨c, cs ++ zeros, by rw [hcs]; rfl, hc, fun x hx => ?_⟩
    rw [← List.cons_append, ← hcs] at hx
    rcases List.mem_append.mp hx with hx | hx
    · exact Decimal.isDigit_of_mem_ofNat hx
    · exact hzeros x hx

/-- So are some of those digits, from the first one on. -/
lemma isWholePart_take (h : 0 < D) {n : ℕ} (hn : 0 < n) :
    IsWholePart ((Decimal.ofNat D).take n) := by
  rcases isWholePart_ofNat_append h (List.forall_mem_nil _) with
    hz | ⟨c, cs, hcs, hc, hdigits⟩
  · rw [List.append_nil] at hz
    rw [hz]
    exact Or.inl (List.take_of_length_le hn)
  · rw [List.append_nil] at hcs
    obtain ⟨n, rfl⟩ := Nat.exists_eq_succ_of_ne_zero hn.ne'
    refine Or.inr ⟨c, cs.take n, by rw [hcs]; rfl, hc, fun x hx => ?_⟩
    exact hdigits x ((List.take_subset (n + 1) (c :: cs)) hx)

/-- The digits of a number fall into those up to a place and those after
it. -/
lemma isDigit_of_mem_drop {n : ℕ} {c : Char}
    (h : c ∈ (Decimal.ofNat D).drop n) : c.isDigit :=
  Decimal.isDigit_of_mem_ofNat (List.mem_of_mem_drop h)

/-- Zeros are digits. -/
lemma isDigit_of_mem_zeros {n : ℕ} {c : Char}
    (h : c ∈ List.replicate n '0') : c.isDigit := by
  rw [List.eq_of_mem_replicate h]
  decide

/-- Before all digits a point stands after a zero, and there may be more
zeros after it. -/
lemma unsigned?_zeros (negative : Bool) (n : ℕ) :
    unsigned? negative ('0' :: '.' ::
        List.replicate n '0' ++ Decimal.ofNat D) =
      some (.float (ofDecimal negative D
        (-n - (Decimal.ofNat D).length)), []) := by
  have hfrac : ∀ c ∈ List.replicate n '0' ++ Decimal.ofNat D, c.isDigit := by
    intro c hc
    rcases List.mem_append.mp hc with hc | hc
    · exact isDigit_of_mem_zeros hc
    · exact Decimal.isDigit_of_mem_ofNat hc
  obtain ⟨c, cs, hcs, -⟩ := exists_cons_ofNat D
  have hne : List.replicate n '0' ++ Decimal.ofNat D ≠ [] := by simp [hcs]
  have hvalue : Decimal.toNat
      (['0'] ++ (List.replicate n '0' ++ Decimal.ofNat D)) = D := by
    rw [Decimal.toNat_append, Decimal.toNat_append, Decimal.toNat_zeros,
      Decimal.toNat_ofNat, show Decimal.toNat ['0'] = 0 by decide]
    omega
  have hlength : -((List.replicate n '0' ++ Decimal.ofNat D).length : ℤ) =
      -n - (Decimal.ofNat D).length := by
    rw [List.length_append, List.length_replicate]
    omega
  have hread := unsigned?_pointed negative (Or.inl rfl) hfrac hne
  rw [hvalue, hlength, pointed, if_neg (by simpa using hne)] at hread
  simpa using hread

/-- After all digits a point may stand after more zeros, and stands before
one. -/
lemma unsigned?_padded (negative : Bool) (h : 0 < D) (n : ℕ) :
    unsigned? negative (Decimal.ofNat D ++ List.replicate n '0'
        ++ ['.', '0']) =
      some (.float (ofDecimal negative D n), []) := by
  have hwhole : IsWholePart (Decimal.ofNat D ++ List.replicate n '0') :=
    isWholePart_ofNat_append h fun _ => isDigit_of_mem_zeros
  have hvalue : Decimal.toNat
      ((Decimal.ofNat D ++ List.replicate n '0') ++ ['0']) =
        D * 10 ^ (n + 1) := by
    rw [Decimal.toNat_append, Decimal.toNat_append, Decimal.toNat_zeros,
      Decimal.toNat_ofNat, List.length_replicate,
      show Decimal.toNat ['0'] = 0 by decide, List.length_singleton, pow_succ]
    ring
  have hexp : (-(['0'].length : ℤ)) + (n + 1 : ℕ) = n := by
    rw [List.length_singleton]
    omega
  have hzero : ∀ c ∈ ['0'], c.isDigit :=
    List.forall_mem_singleton.mpr (by decide)
  have hread := unsigned?_pointed negative hwhole hzero
    (List.cons_ne_nil _ _)
  rw [hvalue, Binary64.ofDecimal_mul_pow, hexp] at hread
  simpa [pointed] using hread

/-- A point may stand among the digits. -/
lemma unsigned?_inside (negative : Bool) (h : 0 < D) {n : ℕ} (hn : 0 < n)
    (hlength : n < (Decimal.ofNat D).length) :
    unsigned? negative ((Decimal.ofNat D).take n
        ++ '.' :: (Decimal.ofNat D).drop n) =
      some (.float (ofDecimal negative D
        (n - (Decimal.ofNat D).length)), []) := by
  have hne : (Decimal.ofNat D).drop n ≠ [] := by
    rw [Ne, List.drop_eq_nil_iff]
    omega
  have hexp : -(((Decimal.ofNat D).drop n).length : ℤ) =
      n - (Decimal.ofNat D).length := by
    rw [List.length_drop]
    omega
  have hread := unsigned?_pointed negative (isWholePart_take h hn)
    (fun _ => isDigit_of_mem_drop) hne
  rw [List.take_append_drop, Decimal.toNat_ofNat, hexp, pointed,
    if_neg (by simpa using hne)] at hread
  simpa using hread

/-- A point may stand after the first digit, and an exponent after the
last one. -/
lemma unsigned?_exponent (negative : Bool) (h : 0 < D) (p : ℤ)
    :
    unsigned? negative ((Decimal.ofNat D).take 1 ++
        (if (Decimal.ofNat D).length ≤ 1 then []
          else '.' :: (Decimal.ofNat D).drop 1)
        ++ 'e' :: exponentText p) =
      some (.float (ofDecimal negative D
        (p + 1 - (Decimal.ofNat D).length)), []) := by
  obtain ⟨c, cs, hcs, -⟩ := exists_cons_ofNat D
  have hpoint : (if (Decimal.ofNat D).length ≤ 1 then []
      else '.' :: (Decimal.ofNat D).drop 1) =
        pointed ((Decimal.ofNat D).drop 1) := by
    rw [hcs]
    cases cs <;> rfl
  have hexp : p - ((Decimal.ofNat D).drop 1).length =
      p + 1 - (Decimal.ofNat D).length := by
    rw [List.length_drop, hcs, List.length_cons]
    omega
  have hfrac : ∀ c ∈ (Decimal.ofNat D).drop 1, c.isDigit :=
    fun _ => isDigit_of_mem_drop
  have hread := unsigned?_scientific negative
    (isWholePart_take h Nat.one_pos) hfrac p
  rw [List.take_append_drop, Decimal.toNat_ofNat, hexp] at hread
  rw [hpoint]
  simpa using hread

/-- Digits that are laid out around a point stand for the decimal that
they were laid out from. -/
lemma unsigned?_layout (negative : Bool) (h : 0 < D) (point : ℤ)
    :
    unsigned? negative (layout (Decimal.ofNat D) point) =
      some (.float (ofDecimal negative D
        (point - (Decimal.ofNat D).length)), []) := by
  unfold layout
  split
  · split
    next hlow =>
      have hpoint : -((-point).toNat : ℤ) = point := by omega
      have hread := unsigned?_zeros (D := D) negative (-point).toNat
      rwa [hpoint] at hread
    next hhigh =>
      dsimp only
      split
      next hlength =>
        have hpoint : ((point.toNat - (Decimal.ofNat D).length : ℕ) : ℤ) =
            point - (Decimal.ofNat D).length := by omega
        have hread := unsigned?_padded negative h
          (point.toNat - (Decimal.ofNat D).length)
        rwa [hpoint] at hread
      next hlength =>
        have hpoint : (point.toNat : ℤ) = point := by omega
        have hread := unsigned?_inside negative h
          (n := point.toNat) (by omega) (by omega)
        rwa [hpoint] at hread
  · have hread := unsigned?_exponent negative h (point - 1)
    rwa [sub_add_cancel] at hread

/-- Digits that are laid out around a point start with a digit. -/
lemma exists_cons_layout (h : 0 < D) (point : ℤ) :
    ∃ c cs, layout (Decimal.ofNat D) point = c :: cs ∧ c.isDigit := by
  have htake : ∀ n, 0 < n → ∀ more,
      ∃ c cs, (Decimal.ofNat D).take n ++ more = c :: cs ∧ c.isDigit := by
    intro n hn more
    obtain ⟨c, cs, hcs, hc⟩ := (isWholePart_take h hn).exists_cons
    exact ⟨c, cs ++ more, by rw [hcs]; rfl, hc⟩
  unfold layout
  split
  · split
    · exact ⟨'0', _, rfl, by decide⟩
    · dsimp only
      split
      · obtain ⟨c, cs, hcs, hc⟩ := exists_cons_ofNat D
        exact ⟨c, _, by rw [hcs]; rfl, hc⟩
      · exact htake _ (by omega) _
  · rw [List.append_assoc]
    exact htake 1 Nat.one_pos _

/-! ### Floating-point numbers -/

/-- The decimal that a positive number is written with. -/
lemma ofDecimal_written (negative : Bool) {m : ℕ} {e : ℤ}
    (hcanonical : IsCanonical m e) (hm : 0 < m) :
    0 < ((shortest m e).trimmed 20).digits ∧
      ofDecimal negative ((shortest m e).trimmed 20).digits
        ((shortest m e).trimmed 20).exponent =
          .finite negative m e hcanonical := by
  have hread := Binary64.ofDecimal_trimmed false (shortest m e) 20
  rw [Binary64.ofDecimal_shortest hcanonical hm] at hread
  refine ⟨Nat.pos_of_ne_zero fun hzero => ?_, ?_⟩
  · -- no other number than zero has no digits
    rw [hzero, ofDecimal, if_pos rfl, Binary64.zero, Binary64.ofParts,
      dif_pos (by decide)] at hread
    injection hread with _ hzero'
    omega
  · rw [Binary64.ofDecimal_withSign, hread, Binary64.withSign]

/-- A magnitude in writing starts with a digit, and is read as the number
with the sign that stood before it. -/
lemma unsigned?_magnitudeText (negative : Bool) {m : ℕ} {e : ℤ}
    (hcanonical : IsCanonical m e) :
    (∃ c cs, Binary64.magnitudeText m e = c :: cs ∧ c.isDigit) ∧
      unsigned? negative (Binary64.magnitudeText m e) =
        some (.float (.finite negative m e hcanonical), []) := by
  rcases Nat.eq_zero_or_pos m with rfl | hm
  · obtain rfl : e = -1074 := by
      rcases hcanonical with ⟨he, -⟩ | ⟨-, -, hfull, -⟩
      · exact he
      · exact absurd hfull (by decide)
    have hzero : ∀ c ∈ ['0'], c.isDigit :=
      List.forall_mem_singleton.mpr (by decide)
    have hread := unsigned?_pointed negative (Or.inl rfl) hzero
      (List.cons_ne_nil _ _)
    refine ⟨⟨'0', ['.', '0'], rfl, by decide⟩, ?_⟩
    rw [Binary64.magnitudeText, if_pos rfl]
    refine hread.trans ?_
    rw [show Decimal.toNat (['0'] ++ ['0']) = 0 by decide, ofDecimal,
      if_pos rfl, Binary64.zero, Binary64.ofParts, dif_pos hcanonical]
  · obtain ⟨hdigits, hvalue⟩ := ofDecimal_written negative hcanonical hm
    rw [Binary64.magnitudeText, if_neg hm.ne']
    refine ⟨exists_cons_layout hdigits _, ?_⟩
    dsimp only
    rw [unsigned?_layout negative hdigits _, add_sub_cancel_left,
      hvalue]

/-- Signs and digits are parts of a number. -/
lemma isNumeral_of_mem_exponentText {p : ℤ} {c : Char}
    (h : c ∈ exponentText p) : isNumeral c := by
  obtain ⟨ds, htext, -, hdigits, -⟩ := exists_exponentText_eq p
  rw [htext] at h
  rcases List.mem_cons.mp h with rfl | h
  · split <;> rfl
  · exact isNumeral_of_isDigit (hdigits c h)

/-- Digits that are laid out around a point are parts of a number, and so
is what stands among them. -/
lemma isNumeral_of_mem_layout {point : ℤ} :
    ∀ c ∈ layout (Decimal.ofNat D) point, isNumeral c := by
  have hdigits : ∀ c ∈ Decimal.ofNat D, isNumeral c := fun c hc =>
    isNumeral_of_isDigit (Decimal.isDigit_of_mem_ofNat hc)
  have hzeros : ∀ n, ∀ c ∈ List.replicate n '0', isNumeral c := fun n c hc =>
    isNumeral_of_isDigit (isDigit_of_mem_zeros hc)
  have hdrop : ∀ n, ∀ c ∈ (Decimal.ofNat D).drop n, isNumeral c :=
    fun n c hc => hdigits c (List.mem_of_mem_drop hc)
  have htake : ∀ n, ∀ c ∈ (Decimal.ofNat D).take n, isNumeral c :=
    fun n c hc => hdigits c (List.mem_of_mem_take hc)
  have hzero : isNumeral '0' := rfl
  have hpoint : isNumeral '.' := rfl
  have hletter : isNumeral 'e' := rfl
  unfold layout
  dsimp only
  split_ifs
  · simpa only [List.cons_append, List.forall_mem_cons,
      List.forall_mem_append] using ⟨hzero, hpoint, hzeros _, hdigits⟩
  · simp only [List.forall_mem_append, List.forall_mem_cons]
    exact ⟨⟨hdigits, hzeros _⟩, hpoint, hzero, List.forall_mem_nil _⟩
  · simp only [List.forall_mem_append, List.forall_mem_cons]
    exact ⟨htake _, hpoint, hdrop _⟩
  · simp only [List.forall_mem_append, List.forall_mem_cons]
    exact ⟨⟨htake _, List.forall_mem_nil _⟩, hletter, fun _ =>
      isNumeral_of_mem_exponentText⟩
  · simp only [List.forall_mem_append, List.forall_mem_cons]
    exact ⟨⟨htake _, hpoint, hdrop _⟩, hletter, fun _ =>
      isNumeral_of_mem_exponentText⟩

/-- So is all of a magnitude in writing. -/
lemma isNumeral_of_mem_magnitudeText (m : ℕ) (e : ℤ) :
    ∀ c ∈ Binary64.magnitudeText m e, isNumeral c := by
  rw [Binary64.magnitudeText]
  split_ifs
  · simp only [List.forall_mem_cons]
    exact ⟨rfl, rfl, rfl, List.forall_mem_nil _⟩
  · exact isNumeral_of_mem_layout

/-- A finite number is written as its magnitude, after a minus sign if it
is negative. -/
lemma printNumber_finite (negative : Bool) {m : ℕ} {e : ℤ}
    (hcanonical : IsCanonical m e) :
    printNumber (.float (.finite negative m e hcanonical)) =
      withSign negative (Binary64.magnitudeText m e) :=
  String.toList_ofList

/-- A floating-point number in writing starts with a digit, with a minus
sign, or with the first letter of a word. -/
lemma exists_cons_float (x : Binary64) :
    ∃ c cs, printNumber (.float x) = c :: cs ∧
      (c ∈ ['-', 'N', 'I'] ∨ c.isDigit) := by
  cases x with
  | nan => exact ⟨'N', ['a', 'N'], rfl, Or.inl (by decide)⟩
  | infinite negative =>
    cases negative
    · exact ⟨'I', "nfinity".toList, rfl, Or.inl (by decide)⟩
    · exact ⟨'-', "Infinity".toList, rfl, Or.inl (by decide)⟩
  | finite negative m e hcanonical =>
    obtain ⟨⟨c, cs, hcs, hc⟩, -⟩ :=
      unsigned?_magnitudeText negative hcanonical
    rw [printNumber_finite]
    cases negative
    · exact ⟨c, cs, hcs, Or.inr hc⟩
    · exact ⟨'-', _, rfl, Or.inl (by decide)⟩

/-- A floating-point number in writing is read as itself. -/
theorem readScalar_float (x : Binary64) {rest : List Code}
    (hrest : EndsNumber rest) :
    readScalar ((printNumber (.float x)).map .char ++ rest)
      = .ok (.float x, rest) := by
  cases x with
  | nan => rfl
  | infinite negative => cases negative <;> rfl
  | finite negative m e hcanonical =>
    obtain ⟨⟨c, cs, hcs, hc⟩, hread⟩ :=
      unsigned?_magnitudeText negative hcanonical
    obtain ⟨hscalar, hnumerals, hnumber, -⟩ :=
      readScalar_withSign negative hcs hc (isNumeral_of_mem_magnitudeText m e)
        hrest
    rw [hread] at hnumber
    rw [printNumber_finite, hscalar]
    simp only [readNumber, hnumerals, hnumber, List.map_nil, List.nil_append]

end Json

end ApiBook
