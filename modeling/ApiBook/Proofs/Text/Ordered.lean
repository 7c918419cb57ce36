/-
Texts are ordered by the numbers of their code points.

* `Code.toNat_injective`: a code point is known by its number, and so code
  points are in a linear order;
* `Text.lt_iff_toList_lt`, `Text.le_iff_toList_le`: so are texts, as their
  rows of code points are.
-/
import ApiBook.Proofs.Text.Joined
import Mathlib.Data.List.Lex

namespace ApiBook

namespace Code

/-- No character has the number of a surrogate, and so a code point is known
by its number. -/
lemma toNat_injective : Function.Injective toNat := by
  have hapart : ∀ (c : Char) (n : Fin 2048),
      c.toNat ≠ surrogateBase + (n : ℕ) := by
    intro c n
    have hc := toNat_scalar c
    simp only [surrogateBase]
    omega
  rintro (c | m) (d | n) h
  · have hchar : c = d := by
      rw [← Char.ofNat_toNat c, ← Char.ofNat_toNat d]
      exact congrArg Char.ofNat h
    rw [hchar]
  · exact absurd h (hapart c n)
  · exact absurd h.symm (hapart d m)
  · have hnumber : (m : ℕ) = n := Nat.add_left_cancel h
    rw [Fin.ext hnumber]

instance : LinearOrder Code := LinearOrder.lift' toNat toNat_injective

end Code

namespace Text

lemma lt_iff_toList_lt {s t : Text} : s < t ↔ s.toList < t.toList := Iff.rfl

lemma le_iff_toList_le {s t : Text} : s ≤ t ↔ s.toList ≤ t.toList := by
  rw [← not_lt]
  rfl

instance : LinearOrder Text where
  le_refl _ := le_iff_toList_le.mpr le_rfl
  le_trans s t u := by
    simp only [le_iff_toList_le]
    exact le_trans
  lt_iff_le_not_ge s t := by
    simp only [lt_iff_toList_lt, le_iff_toList_le, lt_iff_le_not_ge]
  le_antisymm s t hst hts :=
    ext (le_antisymm (le_iff_toList_le.mp hst) (le_iff_toList_le.mp hts))
  le_total s t := by
    simp only [le_iff_toList_le]
    exact le_total _ _
  toDecidableLE := inferInstance
  toDecidableEq := inferInstance
  toDecidableLT := inferInstance

end Text

end ApiBook
