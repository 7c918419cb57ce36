/-
Percent encoding, and how it is read back.

* `isPathChar`: the characters that stand for themselves in the path of an
  address; `IsEncoded`: the characters of encoded texts;
* `percentEncode`: a text whose other bytes are all escaped;
* `percentBytes_flatMap_percentByte`: bytes are read back from their escapes;
* `percentDecode_percentEncode`: **a text is read back from its percent
  encoding**.
-/
import ApiBook.Proofs.Text.Utf8
import ApiBook.Text.Utf8

namespace ApiBook.Text

/-! ### Encoding -/

/-- The characters that stand for themselves in the path of an address: ASCII
letters and digits, four marks, and the slash. -/
def isPathChar (c : Char) : Bool :=
  'a' ≤ c && c ≤ 'z' || 'A' ≤ c && c ≤ 'Z' || '0' ≤ c && c ≤ '9'
    || c = '_' || c = '.' || c = '-' || c = '~' || c = '/'

/-- The upper-case hexadecimal digit of a value below sixteen. -/
def upperHexDigit (n : ℕ) : Char :=
  if n < 10 then Char.ofNat (48 + n) else Char.ofNat (55 + n)

/-- A byte in the path of an address: the character it is, or an escape. -/
def percentByte (b : UInt8) : List Char :=
  if isPathChar (Char.ofNat b.toNat) then [Char.ofNat b.toNat]
  else ['%', upperHexDigit (b.toNat / 16), upperHexDigit (b.toNat % 16)]

/-- A text as the path of an address: its bytes, all of them escaped that do
not stand for themselves. -/
def percentEncode (cs : List Char) : List Char :=
  (encodeUtf8 cs).flatMap percentByte

/-! ### Characters -/

/-- The characters of encoded texts. -/
def IsEncoded (c : Char) : Prop := isPathChar c ∨ c = '%'

instance : DecidablePred IsEncoded := fun c =>
  inferInstanceAs (Decidable (isPathChar c ∨ c = '%'))

/-- They are visible ASCII characters. -/
lemma IsEncoded.bounds {c : Char} (h : IsEncoded c) :
    0x20 < c.toNat ∧ c.toNat < 0x80 := by
  rcases h with hpath | rfl
  · simp only [isPathChar, Bool.or_eq_true, Bool.and_eq_true,
      decide_eq_true_eq, Char.le_def, UInt32.le_iff_toNat_le] at hpath
    have hval : c.toNat = c.val.toNat := rfl
    have hupper : 'A'.val.toNat = 65 ∧ 'Z'.val.toNat = 90 := ⟨rfl, rfl⟩
    have hlower : 'a'.val.toNat = 97 ∧ 'z'.val.toNat = 122 := ⟨rfl, rfl⟩
    have hdigit : '0'.val.toNat = 48 ∧ '9'.val.toNat = 57 := ⟨rfl, rfl⟩
    rcases hpath with ((((hrange | rfl) | rfl) | rfl) | rfl) | rfl
    · omega
    all_goals decide
  · decide

/-- No character that stands for itself begins an escape. -/
lemma ne_percent_of_isPathChar {c : Char} (h : isPathChar c) : c ≠ '%' := by
  rintro rfl
  exact absurd h (by decide)

/-- A hexadecimal digit stands for itself in a path. -/
lemma isPathChar_upperHexDigit :
    ∀ n < 16, isPathChar (upperHexDigit n) := by
  decide

/-- A hexadecimal digit is read back. -/
lemma hexValue?_upperHexDigit :
    ∀ n < 16, hexValue? (upperHexDigit n) = some n := by
  decide

/-- The characters that a byte is written with. -/
lemma isEncoded_of_mem_percentByte {b : UInt8} {c : Char}
    (h : c ∈ percentByte b) : IsEncoded c := by
  have hb : b.toNat < 256 := b.toNat_lt
  unfold percentByte at h
  split at h
  next hpath =>
    rw [List.mem_singleton.mp h]
    exact .inl hpath
  · simp only [List.mem_cons, List.not_mem_nil, or_false] at h
    rcases h with rfl | rfl | rfl
    · exact .inr rfl
    · exact .inl (isPathChar_upperHexDigit _ (by omega))
    · exact .inl (isPathChar_upperHexDigit _ (by omega))

/-- The characters of an encoded text. -/
lemma isEncoded_of_mem_percentEncode {cs : List Char} :
    ∀ c ∈ percentEncode cs, IsEncoded c := by
  intro c hc
  obtain ⟨b, -, hb⟩ := List.mem_flatMap.mp hc
  exact isEncoded_of_mem_percentByte hb

/-! ### Reading back -/

/-- A byte is read back from its escape, whatever follows it. -/
lemma percentBytes_percentByte (b : UInt8) (cs : List Char) :
    percentBytes (percentByte b ++ cs) = b :: percentBytes cs := by
  have hb : b.toNat < 256 := b.toNat_lt
  unfold percentByte
  split
  next hpath =>
    have hnat : (Char.ofNat b.toNat).toNat = b.toNat := by
      rw [Char.ofNat, dif_pos (.inl (by omega))]
      rfl
    have hascii := (IsEncoded.bounds (.inl hpath)).2
    have hchar : encodeUtf8Char (Char.ofNat b.toNat) = [b] := by
      rw [hnat] at hascii
      simp [encodeUtf8Char, hnat, hascii]
    rw [List.singleton_append, percentBytes.eq_def]
    simp only [ne_percent_of_isPathChar hpath, if_false, hchar,
      List.singleton_append]
  · have hhigh := hexValue?_upperHexDigit (b.toNat / 16) (by omega)
    have hlow := hexValue?_upperHexDigit (b.toNat % 16) (by omega)
    have hbyte : (16 * (b.toNat / 16) + b.toNat % 16).toUInt8 = b := by
      rw [Nat.div_add_mod]
      exact UInt8.ofNat_toNat
    simp only [List.cons_append, List.nil_append]
    rw [percentBytes]
    simp only [if_true, hhigh, hlow, hbyte]

/-- Bytes are read back from their escapes. -/
lemma percentBytes_flatMap_percentByte (bs : List UInt8) :
    percentBytes (bs.flatMap percentByte) = bs := by
  induction bs with
  | nil => rw [List.flatMap_nil, percentBytes]
  | cons b bs ih =>
    rw [List.flatMap_cons, percentBytes_percentByte, ih]

/-- ASCII characters are read together. -/
lemma percentDecodeFrom_of_ascii {cs : List Char}
    (h : ∀ c ∈ cs, c.toNat < 0x80) (run : List Char) :
    percentDecodeFrom run (cs.map .char) =
      (decodeUtf8Lossy (percentBytes (run.reverse ++ cs))).map .char := by
  induction cs generalizing run with
  | nil => rw [List.map_nil, percentDecodeFrom, List.append_nil]
  | cons c cs ih =>
    obtain ⟨hc, hcs⟩ := List.forall_mem_cons.mp h
    have hascii : ascii? (.char c) = some c := if_pos hc
    rw [List.map_cons, percentDecodeFrom, hascii]
    dsimp only
    rw [ih hcs, List.reverse_cons, List.append_assoc,
      List.singleton_append]

/-- **A text is read back from its percent encoding.** -/
theorem percentDecode_percentEncode (cs : List Char) :
    percentDecode ((percentEncode cs).map .char) = cs.map .char := by
  have hascii : ∀ c ∈ percentEncode cs, c.toNat < 0x80 := fun c hc =>
    (isEncoded_of_mem_percentEncode c hc).bounds.2
  rw [percentDecode, percentDecodeFrom_of_ascii hascii, List.reverse_nil,
    List.nil_append, percentEncode, percentBytes_flatMap_percentByte,
    decodeUtf8Lossy_encodeUtf8]

end ApiBook.Text
