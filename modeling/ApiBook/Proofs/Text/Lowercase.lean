/-
Lower case after a character that ends words, and where there is none.

* `EndsWord`: a character that is no letter with case, nor passed over
  where case is decided by context;
* `lowerAfter_append`: what comes after such a character has the same lower
  case as on its own;
* `lowercase_of_isSpacing`: a text of spacing characters is its own lower
  case.
-/
import ApiBook.Text.Pieces
import ApiBook.Text.Lowercase
import Mathlib.Data.List.Basic
import Mathlib.Tactic.Common

namespace ApiBook.Text

/-- A character that ends words: it is no letter with case, nor passed over
where case is decided by context. -/
def EndsWord (c : Char) : Prop :=
  isCased c = false ∧ isCaseIgnorable c = false

instance (c : Char) : Decidable (EndsWord c) := by
  unfold EndsWord; infer_instance

variable {c : Char}

/-- Whether a sigma is the last letter of a word is not decided before the
word. -/
lemma isFinalSigma_append (h : EndsWord c) (before earlier after : List Char) :
    isFinalSigma (before ++ c :: earlier) after =
      isFinalSigma before after := by
  have hhead : ((before ++ c :: earlier).dropWhile isCaseIgnorable).head?.any
      isCased = (before.dropWhile isCaseIgnorable).head?.any isCased := by
    induction before with
    | nil => simp [h.1, h.2]
    | cons b before ih =>
      rw [List.cons_append, List.dropWhile_cons, List.dropWhile_cons]
      split
      · exact ih
      · rfl
  rw [isFinalSigma, isFinalSigma, hhead]

/-- What comes after a character that ends words has the same lower case as
on its own. -/
lemma lowerAfter_append (h : EndsWord c) (before earlier cs : List Char) :
    lowerAfter (before ++ c :: earlier) cs = lowerAfter before cs := by
  induction cs generalizing before with
  | nil => rfl
  | cons d cs ih =>
    rw [lowerAfter, lowerAfter, isFinalSigma_append h, ← List.cons_append,
      ih]

/-! ### Spacing characters -/

/-- The code points of the spacing characters. -/
def spacingCodes : List Nat := [
  0x9, 0xA, 0xB, 0xC, 0xD, 0x1C, 0x1D, 0x1E, 0x1F, 0x20, 0x85, 0xA0,
  0x1680, 0x2000, 0x2001, 0x2002, 0x2003, 0x2004, 0x2005, 0x2006, 0x2007,
  0x2008, 0x2009, 0x200A, 0x2028, 0x2029, 0x202F, 0x205F, 0x3000]

/-- There are no other spacing characters. -/
lemma toNat_mem_spacingCodes {c : Char} (h : isSpacing c) :
    c.toNat ∈ spacingCodes := by
  simp only [isSpacing, isBlank, Bool.or_eq_true, Bool.and_eq_true,
    decide_eq_true_eq, beq_iff_eq] at h
  simp only [spacingCodes, List.mem_cons, List.not_mem_nil, or_false]
  omega

/-- Spacing characters have no case. -/
lemma lowerChar_of_isSpacing {c : Char} (h : isSpacing c) :
    lowerChar c = [c] := by
  have hall : ∀ n ∈ spacingCodes,
      lowerChar (Char.ofNat n) = [Char.ofNat n] := by decide +kernel
  have hc := hall c.toNat (toNat_mem_spacingCodes h)
  rwa [Char.ofNat_toNat] at hc

/-- A text of spacing characters is its own lower case. -/
lemma lowercase_of_isSpacing {s : String} (h : ∀ c ∈ s.toList, isSpacing c) :
    lowercase s = s := by
  have hafter : ∀ before cs : List Char, (∀ c ∈ cs, isSpacing c) →
      lowerAfter before cs = cs := by
    intro before cs hcs
    induction cs generalizing before with
    | nil => rfl
    | cons c cs ih =>
      obtain ⟨hc, hcs⟩ := List.forall_mem_cons.mp hcs
      have hne : c.toNat ≠ 0x3A3 := by
        intro heq
        exact absurd (heq ▸ toNat_mem_spacingCodes hc) (by decide)
      rw [lowerAfter, if_neg hne, lowerChar_of_isSpacing hc, ih _ hcs,
        List.singleton_append]
  rw [lowercase, hafter [] _ h, String.ofList_toList]

end ApiBook.Text
