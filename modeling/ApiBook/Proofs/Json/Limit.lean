/-
Texts that break a limit of the reader.

* `Exceeds`: what a text must have to break a limit: more opening brackets
  than may be nested, or more digits in a row than a number may have;
* `Bounded`, `readsBounded`: every reader leaves an end of its text, and
  complains of a limit only if its text has what breaks it;
* `exceeds_of_parse`: **so does the reader of whole texts**;
* `KeepsLimits.not_breaksLimit`: a text with few brackets and short
  numbers breaks no limit;
* `breaksLimit_of_brackets`, `breaksLimit_of_digits`: neither bound can be
  raised.
-/
import ApiBook.Proofs.Json.RoundTrip

namespace ApiBook.Json

/-- Whether a list or an object begins. -/
def isOpening (c : Char) : Bool := c = '[' || c = '{'

/-- What a text must have to break a limit, where lists and objects may be
nested `d` times. -/
def Exceeds (d : ℕ) (cs : List Code) : Breach → Prop
  | .depth => d < cs.countP (Code.meets isOpening)
  | .digits n => Number.digitLimit < n ∧
      ∃ run : List Char, run.map .char <:+: cs ∧ (∀ c ∈ run, c.isDigit) ∧
        run.length = n

/-- An outcome of reading a text: what is left is an end of it, and a limit
that is broken is one that the text breaks. -/
def Bounded {α : Type} (d : ℕ) (cs : List Code) : Reading α → Prop
  | .ok (_, left) => left <:+ cs
  | .error f => ∀ b, f.breach? = some b → Exceeds d cs b

variable {α : Type} {d : ℕ} {cs left : List Code} {b : Breach}

/-- A text breaks the limits that an end of it breaks. -/
lemma Exceeds.of_suffix (hleft : left <:+ cs) (h : Exceeds d left b) :
    Exceeds d cs b := by
  cases b with
  | depth => exact h.trans_le (hleft.sublist.countP_le)
  | digits n =>
    obtain ⟨hn, run, hrun, hdigits⟩ := h
    exact ⟨hn, run, hrun.trans hleft.isInfix, hdigits⟩

/-- Before an opening bracket one more may be nested. -/
lemma Exceeds.cons_opening {c : Char} (hc : isOpening c)
    (h : Exceeds d cs b) : Exceeds (d + 1) (.char c :: cs) b := by
  cases b with
  | depth =>
    have hcount : (Code.char c :: cs).countP (Code.meets isOpening) =
        cs.countP (Code.meets isOpening) + 1 :=
      List.countP_cons_of_pos hc
    rw [Exceeds, hcount]
    exact Nat.succ_lt_succ h
  | digits n =>
    obtain ⟨hn, run, hrun, hdigits⟩ := h
    exact ⟨hn, run, hrun.trans (List.suffix_cons _ cs).isInfix, hdigits⟩

/-- A fault that is about the syntax breaks no limit. -/
lemma bounded_of_breach?_eq_none {f : Fault} (h : f.breach? = none) :
    Bounded (α := α) d cs (.error f) := by
  intro b hb
  rw [h] at hb
  exact nomatch hb

/-- An outcome of reading the end of a text is one of reading the text. -/
lemma Bounded.of_suffix {r : Reading α} (hleft : left <:+ cs)
    (h : Bounded d left r) : Bounded d cs r := by
  match r with
  | .ok (_, rest) => exact List.IsSuffix.trans h hleft
  | .error f => exact fun b hb => (h b hb).of_suffix hleft

/-- Spaces are left out at the head. -/
lemma skipSpace_suffix (cs : List Code) : skipSpace cs <:+ cs :=
  List.dropWhile_suffix _

/-- What is left of a text is an end of it. -/
lemma Bounded.suffix {r : Reading α} {p : α × List Code}
    (h : Bounded d cs r) (hr : r = .ok p) : p.2 <:+ cs := by
  subst hr
  exact h

/-- A fault of a part is one of the whole. -/
lemma Bounded.error {β : Type} {r : Reading α} {f : Fault}
    (h : Bounded d cs r) (hr : r = .error f) :
    Bounded (α := β) d cs (.error f) := by
  subst hr
  exact h

/-! ### Strings -/

/-- The inside of a string breaks no limit. -/
lemma bounded_scanString (d : ℕ) (whole cs : List Code) :
    Bounded d cs (scanString whole cs) := by
  fun_induction scanString whole cs with
  | case2 cs => exact List.suffix_cons _ cs
  | case5 _ _ _ _ _ _ _ _ _ _ hrest ih
  | case6 _ _ _ _ _ _ _ _ _ hrest ih =>
    -- six characters come before what is left to scan
    rw [hrest] at ih
    exact ih.of_suffix (List.suffix_append
      [Code.char '\\', .char 'u', _, _, _, _] _)
  | case9 _ _ _ _ _ _ _ hrest ih | case10 _ _ _ _ _ _ hrest ih =>
    rw [hrest] at ih
    exact ih.of_suffix (List.suffix_append [Code.char '\\', _] _)
  | case12 c _ _ _ _ _ _ _ _ hrest ih | case13 c _ _ _ _ _ _ _ hrest ih =>
    rw [hrest] at ih
    exact ih.of_suffix (List.suffix_cons c _)
  | _ => exact bounded_of_breach?_eq_none rfl

/-- Nor does a string. -/
lemma bounded_parseString (d : ℕ) (cs : List Code) :
    Bounded d cs (parseString cs) := by
  have h := bounded_scanString d cs cs
  rw [parseString]
  cases hscan : scanString cs cs with
  | ok r => exact h.suffix hscan
  | error f => exact h.error hscan

/-! ### Numbers -/

section Numbers

variable {cs left : List Char}

/-- The whole part of a number is at the head of a text. -/
lemma append_of_wholePart? {whole : List Char}
    (h : wholePart? cs = some (whole, left)) : cs = whole ++ left := by
  unfold wholePart? at h
  split at h
  · cases h
  next c cs =>
    split_ifs at h with hzero hdigit
    · obtain ⟨rfl, rfl⟩ := Prod.mk.inj (Option.some.inj h)
      rw [hzero]
      rfl
    · obtain ⟨rfl, rfl⟩ := Prod.mk.inj (Option.some.inj h)
      rw [List.cons_append, List.takeWhile_append_dropWhile]

/-- A fraction leaves an end of its text. -/
lemma fraction_suffix (cs : List Char) : (fraction cs).2 <:+ cs := by
  unfold fraction
  split
  next c cs =>
    split_ifs
    · exact (List.dropWhile_suffix _).trans (List.suffix_append ['.', c] cs)
    · exact List.suffix_rfl
  · exact List.suffix_rfl

/-- So does a sign. -/
lemma signed_suffix (cs : List Char) : (signed cs).2 <:+ cs := by
  unfold signed
  split
  · exact List.suffix_cons _ _
  · exact List.suffix_cons _ _
  · exact List.suffix_rfl

/-- So does an exponent. -/
lemma suffix_of_exponent? {power : ℤ} (h : exponent? cs = some (power, left)) :
    left <:+ cs := by
  unfold exponent? at h
  split at h
  next e rest =>
    dsimp only at h
    split_ifs at h
    all_goals
      obtain ⟨-, rfl⟩ := Prod.mk.inj (Option.some.inj h)
      exact (List.dropWhile_suffix _).trans
        ((signed_suffix rest).trans (List.suffix_cons e rest))
  · exact nomatch h

/-- So does a number without its sign. -/
lemma suffix_of_unsigned? {negative : Bool} {n : Number}
    (h : unsigned? negative cs = some (n, left)) : left <:+ cs := by
  rw [unsigned?] at h
  split at h
  · cases h
  next whole rest hwhole =>
    have hfraction : (fraction rest).2 <:+ cs := by
      rw [append_of_wholePart? hwhole]
      exact (fraction_suffix rest).trans (List.suffix_append _ _)
    dsimp only at h
    split at h
    · split_ifs at h
      all_goals
        obtain ⟨-, rfl⟩ := Prod.mk.inj (Option.some.inj h)
        exact hfraction
    next power rest' hexponent =>
      obtain ⟨-, rfl⟩ := Prod.mk.inj (Option.some.inj h)
      exact (suffix_of_exponent? hexponent).trans hfraction

/-- So does a number. -/
lemma suffix_of_number? {n : Number} (h : number? cs = some (n, left)) :
    left <:+ cs := by
  unfold number? at h
  split at h
  next cs => exact (suffix_of_unsigned? h).trans (List.suffix_cons _ cs)
  next => exact suffix_of_unsigned? h

/-- The digits of a whole part stand in a row. -/
lemma exists_run_of_wholePart? (cs : List Char) :
    ∃ run, run <:+: cs ∧ (∀ c ∈ run, c.isDigit) ∧
      run.length = ((wholePart? cs).map (·.1.length)).getD 0 := by
  cases hwhole : wholePart? cs with
  | none => exact ⟨[], List.nil_infix, List.forall_mem_nil _, rfl⟩
  | some p =>
    have happend : cs = p.1 ++ p.2 := append_of_wholePart? hwhole
    have hdigits := isDigit_of_wholePart? hwhole
    refine ⟨p.1, ?_, hdigits, rfl⟩
    rw [happend]
    exact (List.prefix_append p.1 p.2).isInfix

/-- So do the digits that are counted in a number. -/
lemma exists_run_wholeDigits (cs : List Char) :
    ∃ run, run <:+: cs ∧ (∀ c ∈ run, c.isDigit) ∧
      run.length = wholeDigits cs := by
  unfold wholeDigits
  split
  next cs =>
    obtain ⟨run, hrun, hdigits⟩ := exists_run_of_wholePart? cs
    exact ⟨run, hrun.trans (List.suffix_cons _ cs).isInfix, hdigits⟩
  next => exact exists_run_of_wholePart? cs

end Numbers

/-- What may be parts of a number is at the head of a text. -/
lemma append_of_numerals (cs : List Code) :
    cs = (numerals cs).1.map .char ++ (numerals cs).2 := by
  fun_induction numerals cs with
  | case1 c cs hc ih =>
    rw [List.map_cons, List.cons_append, ← ih]
  | case2 c cs hc => rfl
  | case3 cs hcs => rfl

/-- A number is refused for its digits only if it has too many. -/
lemma bounded_readNumber (d : ℕ) (cs : List Code) :
    Bounded d cs (readNumber cs) := by
  have happend := append_of_numerals cs
  have hsuffix : ∀ {n left}, number? (numerals cs).1 = some (n, left) →
      left.map .char ++ (numerals cs).2 <:+ cs := by
    intro n left hnumber
    obtain ⟨before, hbefore⟩ := suffix_of_number? hnumber
    refine ⟨before.map .char, ?_⟩
    rw [← List.append_assoc, ← List.map_append, hbefore, ← happend]
  rw [readNumber]
  dsimp only
  split
  · exact bounded_of_breach?_eq_none rfl
  next i left hnumber =>
    split
    next hlimit =>
      intro b hb
      obtain rfl := Option.some.inj hb
      obtain ⟨run, hrun, hdigits⟩ := exists_run_wholeDigits (numerals cs).1
      refine ⟨hlimit, run, (hrun.map _).trans ?_, hdigits⟩
      exact (happend ▸ List.prefix_append _ _).isInfix
    · exact hsuffix hnumber
  next x left hnumber => exact hsuffix hnumber

/-- A word leaves an end of its text. -/
lemma suffix_of_afterWord? {w : List Char} (h : afterWord? w cs = some left) :
    left <:+ cs := by
  induction w generalizing cs with
  | nil =>
    obtain rfl := Option.some.inj h
    exact List.suffix_rfl
  | cons c w ih =>
    cases cs with
    | nil => exact nomatch h
    | cons c' cs =>
      rw [afterWord?] at h
      split_ifs at h
      exact (ih h).trans (List.suffix_cons _ cs)

/-- A word or a number is refused for its digits only if it has too many. -/
lemma bounded_readScalar (d : ℕ) (cs : List Code) :
    Bounded d cs (readScalar cs) := by
  rw [readScalar]
  split
  next r hword =>
    obtain ⟨⟨word, v⟩, -, hr⟩ := List.exists_of_findSome?_eq_some hword
    obtain ⟨left, hleft, rfl⟩ := Option.map_eq_some_iff.mp hr
    exact suffix_of_afterWord? hleft
  · exact bounded_readNumber d cs

/-! ### Values -/

/-- The readers of one amount of fuel keep to their texts. -/
structure ReadsBounded (fuel : ℕ) : Prop where
  value : ∀ d cs, Bounded d cs (parseValue d fuel cs)
  items : ∀ d cs, Bounded d cs (parseItems d fuel cs)
  pairs : ∀ d cs, Bounded d cs (parsePairs d fuel cs)

/-- An outcome inside brackets is one with them. -/
lemma Bounded.cons_opening {c : Char} {r : Reading α} (hc : isOpening c)
    (h : Bounded d cs r) : Bounded (d + 1) (.char c :: cs) r := by
  match r with
  | .ok (_, rest) => exact List.IsSuffix.trans h (List.suffix_cons _ cs)
  | .error f => exact fun b hb => (h b hb).cons_opening hc

/-- One opening bracket too many breaks the limit. -/
lemma bounded_tooDeep {c : Char} (hc : isOpening c) (n : ℕ) :
    Bounded (α := α) 0 (.char c :: cs) (.error ⟨.tooDeep, n⟩) := by
  intro b hb
  obtain rfl := Option.some.inj hb
  have hcount : (Code.char c :: cs).countP (Code.meets isOpening)
      = cs.countP (Code.meets isOpening) + 1 := List.countP_cons_of_pos hc
  rw [Exceeds, hcount]
  exact Nat.succ_pos _

/-- What comes after a mark, with spaces before it, is an end of a text. -/
lemma suffix_of_skipSpace {mark : Char}
    (h : skipSpace cs = .char mark :: left) :
    left <:+ cs :=
  (h ▸ List.suffix_cons (Code.char mark) left).trans (skipSpace_suffix cs)

/-- With more fuel, values are read in bounds. -/
lemma ReadsBounded.value_succ {fuel : ℕ} (ih : ReadsBounded fuel) (d : ℕ)
    (cs : List Code) : Bounded d cs (parseValue d (fuel + 1) cs) := by
  unfold parseValue
  split
  next rest =>
    have hstring := (bounded_parseString d rest).of_suffix
      (List.suffix_cons (.char '"') rest)
    cases hread : parseString rest with
    | ok r => exact hstring.suffix hread
    | error f => exact hstring.error hread
  · exact bounded_tooDeep rfl _
  · exact bounded_tooDeep rfl _
  next d rest =>
    split
    next left hleft =>
      exact (suffix_of_skipSpace hleft).trans (List.suffix_cons _ rest)
    next =>
      have hitems := ((ih.items d (skipSpace rest)).of_suffix
        (skipSpace_suffix rest)).cons_opening (c := '[') rfl
      cases hread : parseItems d fuel (skipSpace rest) with
      | ok r => exact hitems.suffix hread
      | error f => exact hitems.error hread
  next d rest =>
    split
    next left hleft =>
      exact (suffix_of_skipSpace hleft).trans (List.suffix_cons _ rest)
    next =>
      have hpairs := ((ih.pairs d (skipSpace rest)).of_suffix
        (skipSpace_suffix rest)).cons_opening (c := '{') rfl
      cases hread : parsePairs d fuel (skipSpace rest) with
      | ok r => exact hpairs.suffix hread
      | error f => exact hpairs.error hread
  · exact bounded_readScalar _ _

/-- So are items. -/
lemma ReadsBounded.items_succ {fuel : ℕ} (ih : ReadsBounded fuel) (d : ℕ)
    (cs : List Code) : Bounded d cs (parseItems d (fuel + 1) cs) := by
  have hvalue := ih.value d cs
  rw [parseItems]
  cases hread : parseValue d fuel cs with
  | error f => exact hvalue.error hread
  | ok r =>
    obtain ⟨v, rest⟩ := r
    rw [hread] at hvalue
    dsimp only
    split
    next left hleft => exact (suffix_of_skipSpace hleft).trans hvalue
    next more hmore =>
      have hitems := (ih.items d (skipSpace more)).of_suffix
        ((skipSpace_suffix more).trans
          ((suffix_of_skipSpace hmore).trans hvalue))
      cases hnext : parseItems d fuel (skipSpace more) with
      | ok r => exact hitems.suffix hnext
      | error f => exact hitems.error hnext
    next => exact bounded_of_breach?_eq_none rfl

/-- So are members. -/
lemma ReadsBounded.pairs_succ {fuel : ℕ} (ih : ReadsBounded fuel) (d : ℕ)
    (cs : List Code) : Bounded d cs (parsePairs d (fuel + 1) cs) := by
  unfold parsePairs
  split
  next rest =>
    have hname := (bounded_parseString d rest).of_suffix
      (List.suffix_cons (.char '"') rest)
    cases hread : parseString rest with
    | error f => exact hname.error hread
    | ok r =>
      obtain ⟨key, rest'⟩ := r
      rw [hread] at hname
      dsimp only
      split
      next value hcolon =>
        have hsuffix := (skipSpace_suffix value).trans
          ((suffix_of_skipSpace hcolon).trans hname)
        have hvalue := (ih.value d (skipSpace value)).of_suffix hsuffix
        cases hread : parseValue d fuel (skipSpace value) with
        | error f => exact hvalue.error hread
        | ok r =>
          obtain ⟨v, rest⟩ := r
          rw [hread] at hvalue
          dsimp only
          split
          next left hleft => exact (suffix_of_skipSpace hleft).trans hvalue
          next more hmore =>
            have hpairs := (ih.pairs d (skipSpace more)).of_suffix
              ((skipSpace_suffix more).trans
                ((suffix_of_skipSpace hmore).trans hvalue))
            cases hnext : parsePairs d fuel (skipSpace more) with
            | ok r => exact hpairs.suffix hnext
            | error f => exact hpairs.error hnext
          next => exact bounded_of_breach?_eq_none rfl
      next => exact bounded_of_breach?_eq_none rfl
  next => exact bounded_of_breach?_eq_none rfl

/-- With any amount of fuel, the readers keep to their texts. -/
lemma readsBounded (fuel : ℕ) : ReadsBounded fuel := by
  induction fuel with
  | zero =>
    constructor
    · intro d cs
      rw [parseValue]
      exact bounded_of_breach?_eq_none rfl
    · intro d cs
      rw [parseItems]
      exact bounded_of_breach?_eq_none rfl
    · intro d cs
      rw [parsePairs]
      exact bounded_of_breach?_eq_none rfl
  | succ fuel ih => exact ⟨ih.value_succ, ih.items_succ, ih.pairs_succ⟩

/-! ### Whole texts -/

variable {t : Text}

/-- **A limit is broken only by what breaks it.** Where a text is refused for
a limit, it has more opening brackets than may be nested, or more digits in a
row than a number may have, and that many. -/
theorem exceeds_of_parse {f : Fault} (h : parse d t = .error f)
    (hb : f.breach? = some b) : Exceeds d t.toList b := by
  have hvalue := ((readsBounded (2 * t.toList.length + 2)).value d
    (skipSpace t.toList)).of_suffix (skipSpace_suffix t.toList)
  rw [parse] at h
  split at h
  · obtain rfl := Except.error.inj h
    cases hb
  · rw [parseBody] at h
    split at h
    next hread =>
      obtain rfl := Except.error.inj h
      rw [hread] at hvalue
      exact hvalue b hb
    next hread =>
      split at h
      · cases h
      · obtain rfl := Except.error.inj h
        cases hb

/-- Whether a text is refused for a limit, where lists and objects may be
nested `d` times. -/
def BreaksLimit (d : ℕ) (t : Text) : Prop :=
  ∃ f b, parse d t = .error f ∧ f.breach? = some b

/-- Whether a text has few opening brackets, and few digits wherever they
stand in a row. -/
structure KeepsLimits (d : ℕ) (t : Text) : Prop where
  brackets : t.toList.countP (Code.meets isOpening) ≤ d
  digits : ∀ run : List Char, run.map .char <:+: t.toList →
    (∀ c ∈ run, c.isDigit) → run.length ≤ Number.digitLimit

/-- Such a text is not refused for a limit. -/
theorem KeepsLimits.not_breaksLimit (h : KeepsLimits d t) :
    ¬ BreaksLimit d t := by
  rintro ⟨f, b, hparse, hb⟩
  have hexceeds := exceeds_of_parse hparse hb
  cases b with
  | depth => exact Nat.not_le_of_lt hexceeds h.brackets
  | digits n =>
    obtain ⟨hn, run, hrun, hdigits, rfl⟩ := hexceeds
    exact Nat.not_le_of_lt hn (h.digits run hrun hdigits)

/-! ### Texts beyond the bounds -/

/-- A text that starts with a character other than a byte order mark and
space is read from there. -/
lemma parse_cons {c : Char} (hspace : isSpace c = false)
    (hmark : c ≠ Char.ofNat 0xFEFF) {f : Fault}
    (h : parseValue d (2 * (Code.char c :: cs).length + 2) (.char c :: cs)
      = .error f) : parse d (.ofList (.char c :: cs)) = .error f := by
  have hstart : (Text.ofList (.char c :: cs)).startsWith
      (.char (Char.ofNat 0xFEFF)) = false := by
    simp [Text.startsWith, hmark]
  rw [parse, hstart, if_neg (by decide), parseBody, skipSpace_cons hspace, h]

/-- One bracket more than may be nested is refused, whatever follows. -/
lemma parseValue_brackets (fuel : ℕ) (hfuel : 2 * d < fuel)
    (rest : List Code) :
    parseValue d fuel (List.replicate (d + 1) (.char '[') ++ rest) =
      .error ⟨.tooDeep, rest.length + 1⟩ := by
  induction d generalizing fuel with
  | zero =>
    obtain ⟨fuel, rfl⟩ := Nat.exists_eq_succ_of_ne_zero hfuel.ne'
    rfl
  | succ d ih =>
    -- a bracket takes two units of fuel: one for the value, one for the item
    obtain ⟨fuel, rfl⟩ : ∃ k, fuel = k + 2 := ⟨fuel - 2, by omega⟩
    have hnext := ih fuel (by omega)
    rw [List.replicate_succ, List.cons_append] at hnext ⊢
    have hspace :
        skipSpace (.char '[' :: (List.replicate d (.char '[') ++ rest)) =
          .char '[' :: (List.replicate d (.char '[') ++ rest) :=
      skipSpace_cons rfl _
    have hitems : parseItems d (fuel + 1)
        (.char '[' :: (List.replicate d (.char '[') ++ rest)) =
          .error ⟨.tooDeep, rest.length + 1⟩ := by
      rw [parseItems, hnext]
    rw [List.replicate_succ, List.cons_append, parseValue, hspace]
    split
    next heq => exact absurd (List.cons.inj heq).1 (by decide)
    next => rw [hitems]

/-- **The bound on brackets is sharp.** A text that begins with more opening
brackets is refused for it, whatever follows. -/
theorem breaksLimit_of_brackets {n : ℕ} (hn : d < n) (rest : List Code) :
    BreaksLimit d (.ofList (List.replicate n (.char '[') ++ rest)) := by
  obtain ⟨k, rfl⟩ : ∃ k, n = d + 1 + k := ⟨n - (d + 1), by omega⟩
  rw [List.replicate_add, List.append_assoc]
  set rest' := List.replicate k (Code.char '[') ++ rest
  have hvalue := parseValue_brackets (d := d)
    (2 * (List.replicate (d + 1) (Code.char '[') ++ rest').length + 2)
    (by simp only [List.length_append, List.length_replicate]; omega) rest'
  refine ⟨⟨.tooDeep, rest'.length + 1⟩, .depth, ?_, rfl⟩
  rw [List.replicate_succ, List.cons_append] at hvalue ⊢
  exact parse_cons rfl (by decide) hvalue

/-- The whole part of a number is made of digits. -/
lemma IsWholePart.isDigit {whole : List Char} (h : IsWholePart whole) :
    ∀ c ∈ whole, c.isDigit := by
  rcases h with rfl | ⟨c, ds, rfl, -, hdigits⟩
  · exact List.forall_mem_singleton.mpr rfl
  · exact hdigits

/-- **So is the bound on digits.** A whole number with more digits is refused
for it, whatever follows the number. -/
theorem breaksLimit_of_digits {whole : List Char} {rest : List Code}
    (hwhole : IsWholePart whole) (hn : Number.digitLimit < whole.length)
    (hrest : EndsNumber rest) :
    BreaksLimit d (.ofList (whole.map .char ++ rest)) := by
  obtain ⟨c, cs, hcs, hc⟩ := hwhole.exists_cons
  obtain ⟨hscalar, hnumerals, hnumber, hdigits⟩ :=
    readScalar_withSign false hcs hc
      (fun x hx => isNumeral_of_isDigit (hwhole.isDigit x hx)) hrest
  have hread := wholePart?_append hwhole noDigit_nil
  rw [List.append_nil] at hread
  have hvalue : unsigned? false whole = some (.whole (Decimal.toNat whole), [])
      := by
    simp [unsigned?, hread, fraction, exponent?]
  rw [hread, Option.map_some, Option.getD_some] at hdigits
  rw [hvalue] at hnumber
  have hfault : readNumber (whole.map .char ++ rest) =
      .error ⟨.tooManyDigits whole.length,
        (whole.map Code.char ++ rest).length⟩ := by
    simp only [withSign, Bool.false_eq_true, if_false]
      at hnumerals hnumber hdigits
    simp only [readNumber, hnumerals, hnumber, hdigits, if_pos hn]
  refine ⟨⟨.tooManyDigits whole.length, (whole.map Code.char ++ rest).length⟩,
    .digits whole.length, ?_, rfl⟩
  simp only [withSign, Bool.false_eq_true, if_false] at hscalar
  rw [hfault] at hscalar
  rw [hcs, List.map_cons, List.cons_append] at hscalar ⊢
  refine parse_cons (isSpace_of_isDigit hc) ?_ ?_
  · rintro rfl
    exact absurd hc (by decide)
  · exact (parseValue_scalar (ne_of_isDigit hc (by decide))
      (ne_of_isDigit hc (by decide)) (ne_of_isDigit hc (by decide))).trans
        hscalar

end ApiBook.Json
