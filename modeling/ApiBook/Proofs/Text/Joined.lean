/-
Halves of characters that stand side by side.

* `exists_pairOf_eq`, `pairOf_of_joinSurrogates?`: a character beyond the
  first plane and its halves;
* `joinHead_of_head`, `joinHead_surrogate`, `joinHead_pair`: how a code
  point goes with what comes next;
* `Text.joined`: a text with such halves joined; `joined_joined`,
  `joined_of_isPlain`: nothing is left to join in it, nor in a text without
  surrogates.
-/
import ApiBook.Proofs.Text.Utf8
import ApiBook.Text.Utf16
import Mathlib.Tactic.Common

namespace ApiBook

/-! ### Code points -/

namespace Code

/-- A code point that is a character. -/
lemma exists_char_of_isChar {c : Code} (h : c.isChar) : ∃ x, c = char x := by
  cases c with
  | char x => exact ⟨x, rfl⟩
  | surrogate n => exact absurd h (by simp [isChar, char?])

/-- Characters are numbered below `0x110000`, the surrogates left out. -/
lemma toNat_scalar (c : Char) :
    c.toNat < 0xD800 ∨ 0xDFFF < c.toNat ∧ c.toNat < 0x110000 := c.valid

/-- The code point with the number of a character is the character. -/
@[simp] lemma ofNat_toNat (c : Char) : ofNat c.toNat = char c := by
  have hc := toNat_scalar c
  rw [ofNat, dif_neg (by simp only [surrogateBase]; omega), Char.ofNat_toNat]

/-- The code point with the number of a surrogate is the surrogate. -/
@[simp] lemma ofNat_surrogate (n : Fin 2048) :
    ofNat (surrogateBase + n) = surrogate n := by
  rw [ofNat, dif_pos ⟨Nat.le_add_right _ _, Nat.add_lt_add_left n.isLt _⟩]
  simp

end Code

namespace Text

/-! ### The halves of a character -/

/-- A character beyond the first plane has two halves, and is what they
make. -/
lemma exists_pairOf_eq {c : Char} (h : planeSize ≤ c.toNat) :
    ∃ a b : Fin 2048,
      pairOf c = (Code.surrogateBase + a, Code.surrogateBase + b) ∧
      joinSurrogates? a b = some c := by
  have hc := Code.toNat_scalar c
  have hmod : (c.toNat - planeSize) % halfCount < halfCount :=
    Nat.mod_lt _ (by decide)
  have hhigh : (c.toNat - planeSize) / halfCount < halfCount := by
    rw [Nat.div_lt_iff_lt_mul (by decide), planeSize, halfCount]
    omega
  have htwo : halfCount + halfCount = 2048 := rfl
  refine ⟨⟨(c.toNat - planeSize) / halfCount, by omega⟩,
    ⟨halfCount + (c.toNat - planeSize) % halfCount, by omega⟩, ?_, ?_⟩
  · rw [pairOf, Nat.add_assoc]
  · have hnumber : planeSize + (c.toNat - planeSize) / halfCount * halfCount
        + (c.toNat - planeSize) % halfCount = c.toNat := by
      rw [Nat.add_assoc, Nat.div_add_mod', Nat.add_sub_cancel' h]
    simp only [joinSurrogates?, hhigh, Nat.le_add_right, decide_true,
      Bool.and_self, if_true, Nat.add_sub_cancel_left, hnumber,
      Char.ofNat_toNat]

/-- The halves of a pair are a first and a second one. -/
lemma bounds_of_joinSurrogates? {a b : Fin 2048} {c : Char}
    (h : joinSurrogates? a b = some c) :
    (a : ℕ) < halfCount ∧ halfCount ≤ (b : ℕ) := by
  rw [joinSurrogates?] at h
  split at h
  next hbounds =>
    exact ⟨of_decide_eq_true (Bool.and_eq_true _ _ ▸ hbounds).1,
      of_decide_eq_true (Bool.and_eq_true _ _ ▸ hbounds).2⟩
  · exact nomatch h

/-- A second half makes no character with what comes next. -/
lemma joinSurrogates?_eq_none {a b : Fin 2048} (h : halfCount ≤ (a : ℕ)) :
    joinSurrogates? a b = none :=
  Option.eq_none_iff_forall_ne_some.mpr fun _ hc =>
    absurd (bounds_of_joinSurrogates? hc).1 (Nat.not_lt_of_ge h)

/-! ### Joining -/

/-- A character stays as it is. -/
@[simp] lemma joinHead_char (x : Char) (cs : List Code) :
    joinHead (.char x) cs = .char x :: cs := rfl

/-- So does a code point before anything that is no surrogate. -/
lemma joinHead_of_head {cs : List Code} (h : ∀ c ∈ cs.head?, c.isChar)
    (c : Code) : joinHead c cs = c :: cs := by
  cases cs with
  | nil => cases c <;> rfl
  | cons d cs =>
    obtain ⟨x, rfl⟩ := Code.exists_char_of_isChar (h d rfl)
    cases c <;> rfl

/-- So does a second half. -/
lemma joinHead_surrogate {b : Fin 2048} (h : halfCount ≤ (b : ℕ))
    (cs : List Code) :
    joinHead (.surrogate b) cs = .surrogate b :: cs := by
  match cs with
  | [] => rfl
  | .char x :: cs => rfl
  | .surrogate d :: cs => simp only [joinHead, joinSurrogates?_eq_none h]

/-- Two halves side by side are the character that they make. -/
lemma joinHead_pair {a b : Fin 2048} {c : Char}
    (h : joinSurrogates? a b = some c) (cs : List Code) :
    joinHead (.surrogate a) (.surrogate b :: cs) = .char c :: cs := by
  simp only [joinHead, h]

@[simp] lemma joinedCodes_nil : joinedCodes [] = [] := rfl

@[simp] lemma joinedCodes_cons (c : Code) (cs : List Code) :
    joinedCodes (c :: cs) = joinHead c (joinedCodes cs) := rfl

/-- A code point joined to a row in which nothing is left to join leaves
nothing to join. -/
lemma joinedCodes_joinHead {cs : List Code} (h : joinedCodes cs = cs)
    (c : Code) : joinedCodes (joinHead c cs) = joinHead c cs := by
  match c, cs with
  | .char x, cs => simp [h]
  | .surrogate a, [] => rfl
  | .surrogate a, .char x :: cs =>
    have hrest : joinedCodes (.char x :: cs) = .char x :: cs := h
    simp [joinHead, hrest]
  | .surrogate a, .surrogate b :: cs =>
    cases hpair : joinSurrogates? a b with
    | none =>
      simp only [joinHead, hpair]
      rw [joinedCodes_cons, h]
      simp only [joinHead, hpair]
    | some x =>
      -- the second half was joined to nothing after it
      have hb := (bounds_of_joinSurrogates? hpair).2
      rw [joinedCodes_cons, joinHead_surrogate hb, List.cons_inj_right] at h
      rw [joinHead_pair hpair, joinedCodes_cons, h, joinHead_char]

/-- In a row that was joined nothing is left to join. -/
@[simp] lemma joinedCodes_joinedCodes (cs : List Code) :
    joinedCodes (joinedCodes cs) = joinedCodes cs := by
  induction cs with
  | nil => rfl
  | cons c cs ih => exact joinedCodes_joinHead ih c

/-- Characters stay as they are. -/
lemma joinedCodes_of_isChar {cs : List Code} (h : ∀ c ∈ cs, c.isChar) :
    joinedCodes cs = cs := by
  induction cs with
  | nil => rfl
  | cons c cs ih =>
    obtain ⟨x, rfl⟩ := Code.exists_char_of_isChar (h c List.mem_cons_self)
    rw [joinedCodes_cons, ih fun d hd => h d (List.mem_cons_of_mem _ hd),
      joinHead_char]

/-! ### Texts -/

/-- A text in which two halves side by side are the character that they
make. -/
def joined (t : Text) : Text := ofList (joinedCodes t.toList)

/-- The code points of a text without surrogates. -/
lemma isPlain_iff {t : Text} : t.isPlain ↔ ∀ c ∈ t.toList, c.isChar := by
  rw [isPlain, List.all_eq_true]

/-- A text without surrogates stays as it is. -/
lemma joined_of_isPlain {t : Text} (h : t.isPlain) : t.joined = t :=
  ext (joinedCodes_of_isChar (isPlain_iff.mp h))

/-- Characters make a text without surrogates. -/
@[simp] lemma isPlain_ofChars (cs : List Char) : (ofChars cs).isPlain := by
  rw [isPlain_iff, toList_ofChars]
  exact List.forall_mem_map.mpr fun _ _ => rfl

/-- So does a string. -/
@[simp] lemma isPlain_ofString (s : String) : (ofString s).isPlain :=
  isPlain_ofChars _

/-- A text without surrogates is made of characters. -/
lemma exists_chars_of_isPlain {t : Text} (h : t.isPlain) :
    ∃ cs, t = ofChars cs := by
  rw [isPlain_iff] at h
  obtain ⟨cs⟩ := t
  induction cs with
  | nil => exact ⟨[], rfl⟩
  | cons c cs ih =>
    obtain ⟨hc, hcs⟩ := List.forall_mem_cons.mp h
    obtain ⟨x, rfl⟩ := Code.exists_char_of_isChar hc
    obtain ⟨xs, hxs⟩ := ih hcs
    exact ⟨x :: xs, ext (congrArg (Code.char x :: ·) (congrArg toList hxs))⟩

/-- Two texts together have no surrogates if neither has. -/
lemma isPlain_append {s t : Text} :
    (s ++ t).isPlain ↔ s.isPlain ∧ t.isPlain := by
  simp [isPlain]

end Text

end ApiBook
