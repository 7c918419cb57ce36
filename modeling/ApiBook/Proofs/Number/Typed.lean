/-
Texts that are no numbers.

* `IsSeparator`: the spacing characters that are not taken off the ends of
  a typed text;
* `ofTyped?_of_isSpacing`: a text of spacing characters is no number.
-/
import ApiBook.Number.Typed
import ApiBook.Proofs.Text.Trimmed
import Mathlib.Tactic.Common
import Mathlib.Tactic.FinCases

namespace ApiBook

namespace Number

/-- Whether a character is an information separator: spacing, but not
blank. -/
def IsSeparator (c : Char) : Prop := 0x1C ≤ c.toNat ∧ c.toNat ≤ 0x1F

/-- What is left of a text of spacing characters without the blanks at its
ends begins with a separator, if with anything. -/
lemma isSeparator_of_mem_head?_plainText {s : Text}
    (h : ∀ c ∈ s.toList, c.meets Text.isSpacing) :
    ∀ c ∈ (plainText s).head?, IsSeparator c := by
  intro c hc
  obtain ⟨⟨before, after, heq, -, -⟩, hhead, -⟩ :=
    Text.exists_append_trim (·.meets Text.isBlank) s.toList
  rw [plainText, List.head?_map] at hc
  obtain ⟨d, hd, rfl⟩ := Option.map_eq_some_iff.mp hc
  have hmem : d ∈ s.toList := by
    rw [heq]
    simp [List.mem_of_mem_head? hd]
  have hspacing := h d hmem
  have hblank := hhead d hd
  cases d with
  | surrogate n => exact absurd hspacing Bool.false_ne_true
  | char d =>
    rw [Code.meets_char] at hspacing hblank
    have hseparator : IsSeparator d := by
      rw [Text.isSpacing, hblank, Bool.false_or, Bool.and_eq_true,
        decide_eq_true_iff, decide_eq_true_iff] at hspacing
      exact hspacing
    rwa [plainCode, plainChar,
      if_pos (hseparator.2.trans_lt (by decide))]

/-- There are four separators. -/
lemma IsSeparator.mem {c : Char} (h : IsSeparator c) :
    c ∈ ['\x1c', '\x1d', '\x1e', '\x1f'] := by
  have hc := Char.ofNat_toNat c
  obtain ⟨hlow, hhigh⟩ := h
  have hcases : c.toNat = 0x1C ∨ c.toNat = 0x1D ∨ c.toNat = 0x1E ∨
      c.toNat = 0x1F := by omega
  rcases hcases with hn | hn | hn | hn <;>
  · rw [← hc, hn]
    decide

/-- A separator is no sign. -/
lemma takeSign_of_isSeparator {c : Char} (h : IsSeparator c)
    (cs : List Char) : takeSign (c :: cs) = (false, c :: cs) := by
  have hc := h.mem
  fin_cases hc <;> rfl

/-- A text that begins with a separator is no whole number. -/
lemma wholeOfTyped_of_isSeparator {s : Text}
    (h : ∀ c ∈ (plainText s).head?, IsSeparator c) :
    wholeOfTyped 10 s = .error (.notWhole 10 s) := by
  rw [wholeOfTyped]
  cases hs : plainText s with
  | nil => rfl
  | cons c cs =>
    have hsign := takeSign_of_isSeparator (h c (by rw [hs]; rfl)) cs
    have hc := (h c (by rw [hs]; rfl)).mem
    have hmark : dropBaseMark 10 (c :: cs) = c :: cs := by
      fin_cases hc <;> cases cs <;> rfl
    have hrun : ((c :: cs).takeWhile fun d => isDigitIn 10 d || d = '_') =
        [] := by
      fin_cases hc <;> rfl
    simp [hsign, hmark, hrun, ungroup?, ungroupFrom?]

/-- A text that begins with a separator is no number with a point or an
exponent. -/
lemma magnitudeOfTyped?_of_isSeparator {c : Char} (h : IsSeparator c)
    (cs : List Char) : magnitudeOfTyped? (c :: cs) = none := by
  have hc := h.mem
  have hlower : c.toLower = c := by fin_cases hc <;> rfl
  have hwords : ∀ word ∈ ["inf", "infinity", "nan"],
      String.ofList ((c :: cs).map Char.toLower) ≠ word := by
    intro word hword heq
    have hhead := congrArg (fun t => t.toList.head?) heq
    rw [String.toList_ofList, List.map_cons, hlower, List.head?_cons]
      at hhead
    fin_cases hc <;> fin_cases hword <;> exact absurd hhead (by decide)
  have htext : ∀ ds, Binary64.ofText? (c :: ds) = none := by
    intro ds
    fin_cases hc <;> rfl
  have hinfinity : ¬ infinityWords.contains
      (String.ofList ((c :: cs).map Char.toLower)) := by
    simpa [infinityWords] using
      And.intro (hwords "inf" (by simp)) (hwords "infinity" (by simp))
  have hnan := hwords "nan" (by simp)
  have hne : c ≠ '_' := by
    rintro rfl
    exact absurd hc (by decide)
  simp only [magnitudeOfTyped?, if_neg hinfinity, if_neg hnan, ungroup?,
    ungroupFrom?, if_neg hne]
  cases ungroupFrom? Char.isDigit c.isDigit cs with
  | none => rfl
  | some ds => exact htext ds

/-- A text of spacing characters is no number. -/
lemma ofTyped?_of_isSpacing {s : Text}
    (h : ∀ c ∈ s.toList, c.meets Text.isSpacing) : ofTyped? s = none := by
  have hhead := isSeparator_of_mem_head?_plainText h
  have hfloat : floatOfTyped s = .error (.notFloat s) := by
    rw [floatOfTyped]
    cases hs : plainText s with
    | nil => rfl
    | cons c cs =>
      have hc := hhead c (by rw [hs]; rfl)
      simp only [takeSign_of_isSeparator hc,
        magnitudeOfTyped?_of_isSeparator hc]
  rw [ofTyped?, wholeOfTyped_of_isSeparator hhead, hfloat]
  rfl

end Number

end ApiBook
