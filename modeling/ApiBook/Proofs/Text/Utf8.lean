/-
Texts are read back from their UTF-8 bytes.

* `leadShape?_two`, `leadShape?_three`, `leadShape?_four`: what may come
  after a first byte that carries some bits;
* `readUtf8Char_two`, `readUtf8Char_three`, `readUtf8Char_four`: sequences of
  the right shape are read as the bits that they carry;
* `exists_encodeUtf8Char_eq`: a character is read back from its bytes,
  whatever follows them;
* `decodeUtf8Lossy_encodeUtf8`: a text is read back from its bytes;
* `encodeUtf8Char_of_readUtf8Char`: a character has the bytes that it is read
  from;
* `decodeUtf8?_eq_some_iff`: **the well-formed bytes are those of texts**.
-/
import ApiBook.Text.Utf8
import Mathlib.Data.List.Basic
import Mathlib.Data.List.TakeWhile

namespace ApiBook.Text

/-! ### Bytes -/

/-- A number below 256 fits in a byte. -/
lemma toNat_toUInt8 {k : ℕ} (h : k < 256) : k.toUInt8.toNat = k :=
  UInt8.toNat_ofNat_of_lt' h

/-- A number is not below a byte if it fits in one that is not. -/
lemma le_toUInt8 {lo : UInt8} {k : ℕ} (hlo : lo.toNat ≤ k) (h : k < 256) :
    lo ≤ k.toUInt8 :=
  UInt8.le_iff_toNat_le.mpr (by rwa [toNat_toUInt8 h])

/-- Nor is it above one. -/
lemma toUInt8_le {hi : UInt8} {k : ℕ} (hhi : k ≤ hi.toNat) (h : k < 256) :
    k.toUInt8 ≤ hi :=
  UInt8.le_iff_toNat_le.mpr (by rwa [toNat_toUInt8 h])

/-- A byte that carries six bits continues a sequence. -/
lemma isContinuation_of_lt {y : ℕ} (h : y < 64) :
    isContinuation (0x80 + y).toUInt8 := by
  rw [isContinuation, Bool.and_eq_true, decide_eq_true_eq, decide_eq_true_eq]
  exact ⟨le_toUInt8 (show 0x80 ≤ 0x80 + y by omega) (by omega),
    toUInt8_le (show 0x80 + y ≤ 0xBF by omega) (by omega)⟩

/-- After a first byte with five bits, one byte follows; the bits are not
all in the last place. -/
lemma leadShape?_two : ∀ x < 32, 2 ≤ x →
    leadShape? (0xC0 + x).toUInt8 = some (1, 0x80, 0xBF) := by
  decide

/-- After a first byte with four bits, two follow: the first of them has more
than five bits if the first byte has none, and leaves out the surrogates. -/
lemma leadShape?_three : ∀ x < 16, leadShape? (0xE0 + x).toUInt8 =
    some (2, if x = 0 then 0xA0 else 0x80, if x = 13 then 0x9F else 0xBF) := by
  decide

/-- After a first byte with three bits, three follow: the first of them has
more than four bits if the first byte has none, and stays below the end of
the planes. -/
lemma leadShape?_four : ∀ x < 5, leadShape? (0xF0 + x).toUInt8 =
    some (3, if x = 0 then 0x90 else 0x80, if x = 4 then 0x8F else 0xBF) := by
  decide

/-- After a byte that stands for itself, none follows. -/
lemma leadShape?_of_lt {b : UInt8} (h : b < 0x80) : leadShape? b = none := by
  have hb : b.toNat < 128 := UInt8.lt_iff_toNat_lt.mp h
  have hlow : ∀ lead : UInt8, 128 ≤ lead.toNat → ¬ lead ≤ b := fun lead hl hle =>
    absurd (UInt8.le_iff_toNat_le.mp hle) (by omega)
  have hne : ∀ lead : UInt8, 128 ≤ lead.toNat → b ≠ lead := fun lead hl heq =>
    absurd (heq ▸ hb) (by omega)
  simp [leadShape?, hlow, hne]

/-- A sequence of the right shape is read as the character whose bits it
carries. -/
lemma readUtf8Char_of_shape (tail : List UInt8) {b second lo hi : UInt8}
    {c : Char} (hshape : leadShape? b = some (tail.length + 1, lo, hi))
    (hlo : lo ≤ second) (hhi : second ≤ hi)
    (htail : ∀ x ∈ tail, isContinuation x)
    (hbits : (second :: tail).foldl (fun acc x => acc * 64 + x.toNat % 64)
      (leadBits b (tail.length + 1)) = c.toNat) (bs : List UInt8) :
    readUtf8Char b (second :: tail ++ bs) = (some c, tail.length + 1) := by
  have hb : ¬ b < 0x80 := fun hb =>
    absurd (hshape.symm.trans (leadShape?_of_lt hb)) nofun
  have hsecond : (second < lo || hi < second) = false := by
    simp only [Bool.or_eq_false_iff, decide_eq_false_iff_not, UInt8.not_lt]
    exact ⟨hlo, hhi⟩
  have hfollow : ((tail ++ bs).take tail.length).takeWhile isContinuation =
      tail := by
    rw [List.take_left, List.takeWhile_eq_self_iff.mpr htail]
  simp only [readUtf8Char, hb, hshape, List.cons_append, hsecond,
    Nat.add_sub_cancel, hfollow, hbits, Char.ofNat_toNat, if_true, if_false,
    Bool.false_eq_true]

/-- Two bytes are read as eleven bits. -/
lemma readUtf8Char_two {x y : ℕ} {c : Char} (hx : x < 32) (hlow : 2 ≤ x)
    (hy : y < 64) (hbits : x * 64 + y = c.toNat) (bs : List UInt8) :
    readUtf8Char (0xC0 + x).toUInt8 ((0x80 + y).toUInt8 :: bs) =
      (some c, 1) := by
  refine readUtf8Char_of_shape [] (leadShape?_two x hx hlow)
    (le_toUInt8 (show 0x80 ≤ 0x80 + y by omega) (by omega))
    (toUInt8_le (show 0x80 + y ≤ 0xBF by omega) (by omega))
    (List.forall_mem_nil _) ?_ bs
  simp only [List.foldl_cons, List.foldl_nil, List.length_nil, leadBits]
  rw [toNat_toUInt8 (by omega), toNat_toUInt8 (by omega)]
  omega

/-- Three bytes are read as sixteen bits, but not if eleven would do, and not
as a surrogate. -/
lemma readUtf8Char_three {x y z : ℕ} {c : Char} (hx : x < 16) (hy : y < 64)
    (hz : z < 64) (hlow : x = 0 → 32 ≤ y) (hhigh : x = 13 → y < 32)
    (hbits : (x * 64 + y) * 64 + z = c.toNat) (bs : List UInt8) :
    readUtf8Char (0xE0 + x).toUInt8
      ((0x80 + y).toUInt8 :: (0x80 + z).toUInt8 :: bs) = (some c, 2) := by
  refine readUtf8Char_of_shape [(0x80 + z).toUInt8]
    (leadShape?_three x hx) (le_toUInt8 ?_ (by omega))
    (toUInt8_le ?_ (by omega))
    (List.forall_mem_singleton.mpr (isContinuation_of_lt hz)) ?_ bs
  · split_ifs
    · exact show 0xA0 ≤ 0x80 + y by omega
    · exact Nat.le_add_right _ y
  · split_ifs
    · exact show 0x80 + y ≤ 0x9F by omega
    · exact show 0x80 + y ≤ 0xBF by omega
  · simp only [List.foldl_cons, List.foldl_nil, List.length_singleton,
      leadBits]
    rw [toNat_toUInt8 (by omega), toNat_toUInt8 (by omega),
      toNat_toUInt8 (by omega)]
    omega

/-- Four bytes are read as twenty-one bits, but not if sixteen would do, and
not beyond the last plane. -/
lemma readUtf8Char_four {x y z w : ℕ} {c : Char} (hx : x < 5) (hy : y < 64)
    (hz : z < 64) (hw : w < 64) (hlow : x = 0 → 16 ≤ y)
    (hhigh : x = 4 → y < 16)
    (hbits : ((x * 64 + y) * 64 + z) * 64 + w = c.toNat) (bs : List UInt8) :
    readUtf8Char (0xF0 + x).toUInt8 ((0x80 + y).toUInt8 ::
      (0x80 + z).toUInt8 :: (0x80 + w).toUInt8 :: bs) = (some c, 3) := by
  refine readUtf8Char_of_shape [(0x80 + z).toUInt8, (0x80 + w).toUInt8]
    (leadShape?_four x hx) (le_toUInt8 ?_ (by omega))
    (toUInt8_le ?_ (by omega)) ?_ ?_ bs
  · split_ifs
    · exact show 0x90 ≤ 0x80 + y by omega
    · exact Nat.le_add_right _ y
  · split_ifs
    · exact show 0x80 + y ≤ 0x8F by omega
    · exact show 0x80 + y ≤ 0xBF by omega
  · exact List.forall_mem_cons.mpr ⟨isContinuation_of_lt hz,
      List.forall_mem_singleton.mpr (isContinuation_of_lt hw)⟩
  · simp only [List.foldl_cons, List.foldl_nil, List.length_cons,
      List.length_nil, leadBits]
    rw [toNat_toUInt8 (by omega), toNat_toUInt8 (by omega),
      toNat_toUInt8 (by omega), toNat_toUInt8 (by omega)]
    omega

/-! ### Texts -/

/-- A character is read back from its bytes, whatever follows them. -/
lemma exists_encodeUtf8Char_eq (c : Char) :
    ∃ b tail, encodeUtf8Char c = b :: tail ∧
      ∀ bs, readUtf8Char b (tail ++ bs) = (some c, tail.length) := by
  have hc : c.toNat < 0xD800 ∨ 0xDFFF < c.toNat ∧ c.toNat < 0x110000 := c.valid
  unfold encodeUtf8Char
  dsimp only
  split_ifs with hone htwo hthree
  · have hbyte := toNat_toUInt8 (k := c.toNat) (by omega)
    have hlt : c.toNat.toUInt8 < 0x80 :=
      UInt8.lt_iff_toNat_lt.mpr (by rw [hbyte]; exact hone)
    refine ⟨_, [], rfl, fun bs => ?_⟩
    rw [readUtf8Char, if_pos hlt, hbyte, Char.ofNat_toNat]
    rfl
  · exact ⟨_, _, rfl, readUtf8Char_two (by omega) (by omega) (by omega)
      (by omega)⟩
  · exact ⟨_, _, rfl, readUtf8Char_three (by omega) (by omega) (by omega)
      (by omega) (by omega) (by omega)⟩
  · exact ⟨_, _, rfl, readUtf8Char_four (by omega) (by omega) (by omega)
      (by omega) (by omega) (by omega) (by omega)⟩

/-- **A text is read back from its bytes.** -/
theorem decodeUtf8Lossy_encodeUtf8 (cs : List Char) :
    decodeUtf8Lossy (encodeUtf8 cs) = cs := by
  induction cs with
  | nil => rw [encodeUtf8, List.flatMap_nil, decodeUtf8Lossy]
  | cons c cs ih =>
    obtain ⟨b, tail, heq, hread⟩ := exists_encodeUtf8Char_eq c
    rw [encodeUtf8, List.flatMap_cons, heq, List.cons_append,
      decodeUtf8Lossy, hread]
    dsimp only
    rw [Option.getD_some, List.drop_left]
    exact congrArg (c :: ·) ih

/-! ### Well-formed bytes -/

/-- What a first byte asks for: how many bytes follow it, and where the first
of them lies. -/
lemma leadShape?_bounds {b lo hi : UInt8} {n : ℕ}
    (h : leadShape? b = some (n, lo, hi)) :
    (n = 1 ∧ (0xC2 ≤ b.toNat ∧ b.toNat < 0xE0) ∧
        0x80 ≤ lo.toNat ∧ hi.toNat ≤ 0xBF) ∨
      (n = 2 ∧ (0xE0 ≤ b.toNat ∧ b.toNat < 0xF0) ∧
        (0x80 ≤ lo.toNat ∧ hi.toNat ≤ 0xBF) ∧
        (b.toNat = 0xE0 → 0xA0 ≤ lo.toNat) ∧
        (b.toNat = 0xED → hi.toNat ≤ 0x9F)) ∨
      (n = 3 ∧ (0xF0 ≤ b.toNat ∧ b.toNat < 0xF5) ∧
        (0x80 ≤ lo.toNat ∧ hi.toNat ≤ 0xBF) ∧
        (b.toNat = 0xF0 → 0x90 ≤ lo.toNat) ∧
        (b.toNat = 0xF4 → hi.toNat ≤ 0x8F)) := by
  simp only [leadShape?, Bool.and_eq_true, decide_eq_true_eq, beq_iff_eq,
    UInt8.le_iff_toNat_le, ← UInt8.toNat_inj, UInt8.reduceToNat] at h
  split_ifs at h
  all_goals
    obtain ⟨rfl, rfl, rfl⟩ := by simpa using h
    grind

/-- A byte is its number. -/
lemma eq_toUInt8 {b : UInt8} {k : ℕ} (h : b.toNat = k) : b = k.toUInt8 := by
  rw [← UInt8.toNat_inj, toNat_toUInt8 (h ▸ b.toNat_lt), h]

/-- A continuation lies between two bounds. -/
lemma toNat_of_isContinuation {b : UInt8} (h : isContinuation b) :
    0x80 ≤ b.toNat ∧ b.toNat ≤ 0xBF := by
  rw [isContinuation, Bool.and_eq_true, decide_eq_true_eq,
    decide_eq_true_eq, UInt8.le_iff_toNat_le, UInt8.le_iff_toNat_le] at h
  exact h

/-- A number that is no surrogate and below the end of the planes is that of
its character. -/
lemma toNat_ofNat_of_lt {n : ℕ} (h : n < 0xD800 ∨ 0xDFFF < n ∧ n < 0x110000) :
    (Char.ofNat n).toNat = n := by
  rw [Char.ofNat, dif_pos h]
  rfl

variable {b d e f : UInt8}

/-- Eleven bits are written as the two bytes that they are read from. -/
lemma encodeUtf8Char_two (hb : 0xC2 ≤ b.toNat ∧ b.toNat < 0xE0)
    (hd : 0x80 ≤ d.toNat ∧ d.toNat ≤ 0xBF) :
    encodeUtf8Char (Char.ofNat (b.toNat % 32 * 64 + d.toNat % 64)) =
      [b, d] := by
  rw [encodeUtf8Char, toNat_ofNat_of_lt (by omega), if_neg (by omega),
    if_pos (by omega), ← eq_toUInt8 (b := b) (by omega),
    ← eq_toUInt8 (b := d) (by omega)]

/-- Sixteen bits are written as the three bytes that they are read from. -/
lemma encodeUtf8Char_three (hb : 0xE0 ≤ b.toNat ∧ b.toNat < 0xF0)
    (hd : 0x80 ≤ d.toNat ∧ d.toNat ≤ 0xBF)
    (hlow : b.toNat = 0xE0 → 0xA0 ≤ d.toNat)
    (hhigh : b.toNat = 0xED → d.toNat ≤ 0x9F)
    (he : 0x80 ≤ e.toNat ∧ e.toNat ≤ 0xBF) :
    encodeUtf8Char (Char.ofNat ((b.toNat % 16 * 64 + d.toNat % 64) * 64 +
      e.toNat % 64)) = [b, d, e] := by
  rw [encodeUtf8Char, toNat_ofNat_of_lt (by omega), if_neg (by omega),
    if_neg (by omega), if_pos (by omega), ← eq_toUInt8 (b := b) (by omega),
    ← eq_toUInt8 (b := d) (by omega), ← eq_toUInt8 (b := e) (by omega)]

/-- Twenty-one bits are written as the four bytes that they are read from. -/
lemma encodeUtf8Char_four (hb : 0xF0 ≤ b.toNat ∧ b.toNat < 0xF5)
    (hd : 0x80 ≤ d.toNat ∧ d.toNat ≤ 0xBF)
    (hlow : b.toNat = 0xF0 → 0x90 ≤ d.toNat)
    (hhigh : b.toNat = 0xF4 → d.toNat ≤ 0x8F)
    (he : 0x80 ≤ e.toNat ∧ e.toNat ≤ 0xBF)
    (hf : 0x80 ≤ f.toNat ∧ f.toNat ≤ 0xBF) :
    encodeUtf8Char (Char.ofNat (((b.toNat % 8 * 64 + d.toNat % 64) * 64 +
      e.toNat % 64) * 64 + f.toNat % 64)) = [b, d, e, f] := by
  rw [encodeUtf8Char, toNat_ofNat_of_lt (by omega), if_neg (by omega),
    if_neg (by omega), if_neg (by omega), ← eq_toUInt8 (b := b) (by omega),
    ← eq_toUInt8 (b := d) (by omega), ← eq_toUInt8 (b := e) (by omega),
    ← eq_toUInt8 (b := f) (by omega)]

/-- A sequence that is read as a character is a byte that stands for itself,
or has the shape that its first byte asks for. -/
lemma shape_of_readUtf8Char {bs : List UInt8} {c : Char} {n : ℕ}
    (h : readUtf8Char b bs = (some c, n)) :
    (b.toNat < 0x80 ∧ c = Char.ofNat b.toNat ∧ n = 0) ∨
      ∃ second tail rest lo hi, bs = second :: tail ++ rest ∧
        leadShape? b = some (n, lo, hi) ∧ tail.length = n - 1 ∧
        (lo.toNat ≤ second.toNat ∧ second.toNat ≤ hi.toNat) ∧
        (∀ x ∈ tail, isContinuation x) ∧
        c = Char.ofNat ((second :: tail).foldl
          (fun acc x => acc * 64 + x.toNat % 64) (leadBits b n)) := by
  rw [readUtf8Char] at h
  split_ifs at h with hb
  · obtain ⟨hc, rfl⟩ := Prod.mk.inj h
    exact Or.inl ⟨UInt8.lt_iff_toNat_lt.mp hb, (Option.some.inj hc).symm, rfl⟩
  · refine Or.inr ?_
    split at h
    · cases h
    next follow lo hi hshape =>
      split at h
      · cases h
      next second rest =>
        dsimp only at h
        split_ifs at h with hbounds hlength
        · cases (Prod.mk.inj h).1
        · obtain ⟨hc, rfl⟩ := Prod.mk.inj h
          have htake : (rest.take (follow - 1)).takeWhile isContinuation =
              rest.take (follow - 1) :=
            (List.takeWhile_prefix _).eq_of_length_le
              ((List.length_take_le _ _).trans_eq hlength.symm)
          simp only [Bool.or_eq_true, decide_eq_true_eq, not_or,
            UInt8.not_lt, UInt8.le_iff_toNat_le] at hbounds
          rw [htake] at hlength hc
          refine ⟨second, rest.take (follow - 1), rest.drop (follow - 1), lo,
            hi, ?_, hshape, hlength, hbounds,
            List.takeWhile_eq_self_iff.mp htake, (Option.some.inj hc).symm⟩
          rw [List.cons_append, List.take_append_drop]
        · cases (Prod.mk.inj h).1

/-- A character that is read has the bytes that it is read from. -/
lemma encodeUtf8Char_of_readUtf8Char {bs : List UInt8} {c : Char} {n : ℕ}
    (h : readUtf8Char b bs = (some c, n)) :
    encodeUtf8Char c = b :: bs.take n := by
  obtain ⟨hb, rfl, rfl⟩ | ⟨second, tail, rest, lo, hi, rfl, hshape, hlength,
    hsecond, htail, rfl⟩ := shape_of_readUtf8Char h
  · have hnat := toNat_ofNat_of_lt (n := b.toNat) (by omega)
    rw [encodeUtf8Char, hnat, if_pos hb, ← eq_toUInt8 rfl, List.take_zero]
  · have htail := fun x hx => toNat_of_isContinuation (htail x hx)
    obtain ⟨rfl, hb, hlo⟩ | ⟨rfl, hb, hlo, hlow, hhigh⟩ |
      ⟨rfl, hb, hlo, hlow, hhigh⟩ := leadShape?_bounds hshape
    · obtain rfl := List.length_eq_zero_iff.mp hlength
      exact encodeUtf8Char_two hb (by omega)
    · obtain ⟨e, rfl⟩ := List.length_eq_one_iff.mp hlength
      exact encodeUtf8Char_three hb (by omega) (by omega) (by omega)
        (htail e (by simp))
    · obtain ⟨e, f, rfl⟩ := List.length_eq_two.mp hlength
      exact encodeUtf8Char_four hb (by omega) (by omega) (by omega)
        (htail e (by simp)) (htail f (by simp))

/-- **The bytes of a text, and nothing else, are read as that text.** -/
theorem decodeUtf8?_eq_some_iff {bs : List UInt8} {cs : List Char} :
    decodeUtf8? bs = some cs ↔ bs = encodeUtf8 cs := by
  constructor
  · intro h
    induction bs using decodeUtf8?.induct generalizing cs with
    | case1 =>
      rw [decodeUtf8?] at h
      obtain rfl := Option.some.inj h
      rfl
    | case2 b rest n hread =>
      rw [decodeUtf8?, hread] at h
      exact nomatch h
    | case3 b rest c n hread ih =>
      rw [decodeUtf8?, hread] at h
      obtain ⟨cs', hcs, rfl⟩ := Option.map_eq_some_iff.mp h
      rw [encodeUtf8, List.flatMap_cons, encodeUtf8Char_of_readUtf8Char hread,
        ← encodeUtf8, ← ih hcs, List.cons_append, List.take_append_drop]
  · rintro rfl
    induction cs with
    | nil => rw [encodeUtf8, List.flatMap_nil, decodeUtf8?]
    | cons c cs ih =>
      obtain ⟨b, tail, heq, hread⟩ := exists_encodeUtf8Char_eq c
      rw [encodeUtf8, List.flatMap_cons, heq, List.cons_append, decodeUtf8?,
        hread]
      dsimp only
      rw [List.drop_left, ← encodeUtf8, ih]
      rfl

end ApiBook.Text
