/-
Whole numbers in writing are read back.

* `EndsNumber`: what may follow a number without becoming a part of it;
  `numerals_append`: the number before it is read by itself;
* `readScalar_ofInt`: a whole number in writing is read as itself.
-/
import ApiBook.Json.Parser
import ApiBook.Proofs.Number.Digits
import Mathlib.Tactic.Common

namespace ApiBook.Json

/-- Whether a number ends where a text begins. -/
def EndsNumber (cs : List Code) : Prop :=
  ∀ c ∈ cs.head?, c.meets isNumeral = false

/-- Whether no digit stands where a row begins. -/
def NoDigit (cs : List Char) : Prop := ∀ c ∈ cs.head?, c.isDigit = false

variable {rest : List Code} {more : List Char} {n : ℕ}

/-- A number ends where a text does. -/
lemma endsNumber_nil : EndsNumber [] := fun _ hc => nomatch hc

/-- No digit stands at the end of a row. -/
lemma noDigit_nil : NoDigit [] := fun _ hc => nomatch hc

/-- What may be parts of a number is told from what comes next. -/
lemma numerals_append {run : List Char} (hrun : ∀ c ∈ run, isNumeral c)
    (hrest : EndsNumber rest) :
    numerals (run.map .char ++ rest) = (run, rest) := by
  induction run with
  | nil =>
    match rest with
    | [] => rfl
    | .surrogate _ :: _ => rfl
    | .char c :: rest =>
      have hc : isNumeral c = false := hrest _ rfl
      simp [numerals, hc]
  | cons c run ih =>
    obtain ⟨hc, hrun⟩ := List.forall_mem_cons.mp hrun
    rw [List.map_cons, List.cons_append, numerals, if_pos hc, ih hrun]

/-- A digit may be a part of a number. -/
lemma isNumeral_of_isDigit {c : Char} (hc : c.isDigit) : isNumeral c := by
  simp [isNumeral, hc]

/-- A digit is no other character than a digit. -/
lemma ne_of_isDigit {c x : Char} (hc : c.isDigit)
    (hx : x.isDigit = false) : c ≠ x := by
  rintro rfl
  exact Bool.false_ne_true (hx.symm.trans hc)

/-- Digits before something else are all that is taken. -/
lemma takeWhile_isDigit_append {cs : List Char}
    (hcs : ∀ c ∈ cs, c.isDigit) (hmore : NoDigit more) :
    (cs ++ more).takeWhile Char.isDigit = cs
      ∧ (cs ++ more).dropWhile Char.isDigit = more := by
  have hhead : more.takeWhile Char.isDigit = []
      ∧ more.dropWhile Char.isDigit = more := by
    cases more with
    | nil => exact ⟨rfl, rfl⟩
    | cons c more =>
      have hc : ¬ c.isDigit = true := by simp [hmore c rfl]
      exact ⟨List.takeWhile_cons_of_neg hc, List.dropWhile_cons_of_neg hc⟩
  rw [List.takeWhile_append_of_pos hcs, List.dropWhile_append_of_pos hcs,
    hhead.1, hhead.2, List.append_nil]
  exact ⟨rfl, rfl⟩

/-- The whole part of a number in writing is all of it. -/
lemma wholePart?_ofNat (n : ℕ) :
    wholePart? (Decimal.ofNat n) = some (Decimal.ofNat n, []) := by
  rcases Decimal.ofNat_eq_zero_or_cons n with hz | ⟨c, cs, hcs, hc⟩
  · rw [hz]
    rfl
  · have hdigit : ∀ x ∈ c :: cs, x.isDigit := fun x hx =>
      Decimal.isDigit_of_mem_ofNat (hcs ▸ hx)
    obtain ⟨htake, hdrop⟩ := takeWhile_isDigit_append
      (fun x hx => hdigit x (List.mem_cons_of_mem _ hx)) noDigit_nil
    rw [List.append_nil] at htake hdrop
    rw [hcs, wholePart?, if_neg hc, if_pos (hdigit c List.mem_cons_self),
      htake, hdrop]

/-- The whole part of a number is made of digits. -/
lemma isDigit_of_wholePart? {cs whole rest : List Char}
    (h : wholePart? cs = some (whole, rest)) : ∀ c ∈ whole, c.isDigit := by
  unfold wholePart? at h
  split at h
  · exact absurd h (by simp)
  next c cs =>
    split_ifs at h with hzero hdigit
    · obtain ⟨rfl, -⟩ := Prod.mk.inj (Option.some.inj h)
      exact List.forall_mem_singleton.mpr rfl
    · obtain ⟨rfl, -⟩ := Prod.mk.inj (Option.some.inj h)
      exact List.forall_mem_cons.mpr
        ⟨hdigit, List.all_eq_true.mp List.all_takeWhile⟩

/-- A number in writing is read as the number, with the sign that stood
before it. -/
lemma unsigned?_ofNat (negative : Bool) (n : ℕ) :
    unsigned? negative (Decimal.ofNat n)
      = some (.whole (if negative then -(n : ℤ) else n), []) := by
  simp only [unsigned?, wholePart?_ofNat n, fraction, exponent?,
    List.isEmpty_nil, if_true, Decimal.toNat_ofNat]

/-- A number in writing starts with a digit. -/
lemma exists_cons_ofNat (n : ℕ) :
    ∃ c cs, Decimal.ofNat n = c :: cs ∧ c.isDigit := by
  rcases Decimal.ofNat_eq_zero_or_cons n with hz | ⟨c, cs, hcs, -⟩
  · exact ⟨'0', [], hz, by decide⟩
  · exact ⟨c, cs, hcs,
      Decimal.isDigit_of_mem_ofNat (hcs ▸ List.mem_cons_self)⟩

/-- A word starts with a letter, or with a minus sign and a letter. -/
lemma word_of_mem_literals {p : String × Value} (hp : p ∈ literals) :
    (∃ w ws, p.1.toList = w :: ws ∧ w.isDigit = false ∧ w ≠ '-')
      ∨ ∃ ws, p.1.toList = '-' :: 'I' :: ws := by
  simp only [literals, List.mem_cons, List.not_mem_nil, or_false] at hp
  rcases hp with rfl | rfl | rfl | rfl | rfl | rfl
  · exact Or.inl ⟨'n', ['u', 'l', 'l'], by decide⟩
  · exact Or.inl ⟨'t', ['r', 'u', 'e'], by decide⟩
  · exact Or.inl ⟨'f', ['a', 'l', 's', 'e'], by decide⟩
  · exact Or.inl ⟨'N', ['a', 'N'], by decide⟩
  · exact Or.inl ⟨'I', ['n', 'f', 'i', 'n', 'i', 't', 'y'], by decide⟩
  · exact Or.inr ⟨['n', 'f', 'i', 'n', 'i', 't', 'y'], by decide⟩

/-- Without a word at its head a text can only be read as a number. -/
lemma readScalar_of_no_word {text : List Code}
    (h : ∀ p ∈ literals, afterWord? p.1.toList text = none) :
    readScalar text = readNumber text := by
  unfold readScalar
  split
  next r hsome =>
    obtain ⟨p, hp, hr⟩ := List.exists_of_findSome?_eq_some hsome
    simp only [h p hp, Option.map_none, reduceCtorEq] at hr
  next => rfl

/-- A word does not start with another character than its first one. -/
lemma afterWord?_of_ne {w c : Char} (hne : c ≠ w) (ws : List Char)
    (cs : List Code) : afterWord? (w :: ws) (.char c :: cs) = none := by
  rw [afterWord?, if_neg fun heq => hne (Code.char.inj heq)]

/-- No word starts with a digit. -/
lemma readScalar_digit {c : Char} (hc : c.isDigit) (cs : List Code) :
    readScalar (.char c :: cs) = readNumber (.char c :: cs) := by
  refine readScalar_of_no_word fun p hp => ?_
  rcases word_of_mem_literals hp with ⟨w, ws, hword, hw, -⟩ | ⟨ws, hword⟩
  · rw [hword, afterWord?_of_ne (ne_of_isDigit hc hw)]
  · rw [hword, afterWord?_of_ne (ne_of_isDigit hc (by decide))]

/-- No word starts with a minus sign and a digit. -/
lemma readScalar_minus_digit {c : Char} (hc : c.isDigit) (cs : List Code) :
    readScalar (.char '-' :: .char c :: cs)
      = readNumber (.char '-' :: .char c :: cs) := by
  refine readScalar_of_no_word fun p hp => ?_
  rcases word_of_mem_literals hp with ⟨w, ws, hword, -, hw⟩ | ⟨ws, hword⟩
  · rw [hword, afterWord?_of_ne hw.symm]
  · rw [hword, afterWord?, if_pos rfl,
      afterWord?_of_ne (ne_of_isDigit hc (by decide))]

/-- A number that starts with another character than a minus sign has no
sign. -/
lemma number?_cons_of_ne {c : Char} (hc : c ≠ '-') (cs : List Char) :
    number? (c :: cs) = unsigned? false (c :: cs)
      ∧ wholeDigits (c :: cs)
        = ((wholePart? (c :: cs)).map (·.1.length)).getD 0 := by
  have hne : ∀ ds, c :: cs = '-' :: ds → False := fun ds h =>
    hc (List.cons.inj h).1
  exact ⟨number?.eq_2 _ hne, wholeDigits.eq_2 _ hne⟩

/-- A number after a minus sign, if it has one. -/
def withSign (negative : Bool) (run : List Char) : List Char :=
  if negative then '-' :: run else run

/-- A number with a sign is read as a number, and as the one that stands
after the sign. -/
lemma readScalar_withSign (negative : Bool) {run cs : List Char} {c : Char}
    (hrun : run = c :: cs) (hc : c.isDigit)
    (hnumerals : ∀ x ∈ run, isNumeral x) (hrest : EndsNumber rest) :
    readScalar ((withSign negative run).map .char ++ rest)
        = readNumber ((withSign negative run).map .char ++ rest)
      ∧ numerals ((withSign negative run).map .char ++ rest)
        = (withSign negative run, rest)
      ∧ number? (withSign negative run) = unsigned? negative run
      ∧ wholeDigits (withSign negative run)
        = ((wholePart? run).map (·.1.length)).getD 0 := by
  subst hrun
  obtain ⟨hnumber, hwhole⟩ :=
    number?_cons_of_ne (ne_of_isDigit hc (by decide)) cs
  cases negative with
  | false =>
    exact ⟨readScalar_digit hc _, numerals_append hnumerals hrest, hnumber,
      hwhole⟩
  | true =>
    refine ⟨readScalar_minus_digit hc _, numerals_append ?_ hrest, rfl, rfl⟩
    exact List.forall_mem_cons.mpr ⟨rfl, hnumerals⟩

/-- A whole number is written as its magnitude, after a minus sign if it
is negative. -/
lemma ofInt_eq_withSign (i : ℤ) :
    Decimal.ofInt i = withSign (decide (i < 0)) (Decimal.ofNat i.natAbs) := by
  simp only [Decimal.ofInt, withSign, decide_eq_true_eq]

/-- A whole number in writing is read as itself. -/
theorem readScalar_ofInt {i : ℤ} (hi : Number.isWritable i)
    (hrest : EndsNumber rest) :
    readScalar ((Decimal.ofInt i).map .char ++ rest) = .ok (.int i, rest) := by
  obtain ⟨c, cs, hcs, hc⟩ := exists_cons_ofNat i.natAbs
  have hlen : ¬ Number.digitLimit < (Decimal.ofNat i.natAbs).length :=
    not_lt_of_ge (Decimal.length_ofNat_le (by decide)
      (Number.isWritable_iff.mp hi))
  obtain ⟨hscalar, hnumerals, hnumber, hwhole⟩ :=
    readScalar_withSign (decide (i < 0)) hcs hc
      (fun _ hx => isNumeral_of_isDigit (Decimal.isDigit_of_mem_ofNat hx)) hrest
  have hvalue : (if decide (i < 0) then -(i.natAbs : ℤ) else i.natAbs) = i := by
    simp only [decide_eq_true_eq]
    split_ifs <;> omega
  rw [wholePart?_ofNat, Option.map_some, Option.getD_some] at hwhole
  rw [unsigned?_ofNat] at hnumber
  rw [ofInt_eq_withSign, hscalar]
  simp only [readNumber, hnumerals, hnumber, hwhole, if_neg hlen, hvalue,
    List.map_nil, List.nil_append]

end ApiBook.Json
