/-
Texts as the program handles them: rows of code points. Most code points
are characters, but a half of a surrogate pair may stand alone, which no
encoding can write.

* `Code`: a character, or a surrogate that stands alone;
* `Text`: a row of code points, in the order of their numbers;
* `Text.ofString`: a string as a text, by which strings count as texts;
* `Text.isPlain`, `Text.chars?`: the texts without surrogates, and their
  characters.
-/

namespace ApiBook

/-! ### Code points -/

/-- A code point: a character, or one of the 2048 surrogates. -/
inductive Code where
  | char (c : Char)
  | surrogate (n : Fin 2048)
  deriving DecidableEq, Repr

namespace Code

instance : Coe Char Code := ⟨char⟩

/-- The number of the first surrogate. -/
def surrogateBase : Nat := 0xD800

/-- The number of a code point. -/
def toNat : Code → Nat
  | char c => c.toNat
  | surrogate n => surrogateBase + n

/-- The code point with a number. A number above the last one counts as
zero. -/
def ofNat (n : Nat) : Code :=
  if h : surrogateBase ≤ n ∧ n < surrogateBase + 2048 then
    surrogate ⟨n - surrogateBase, by omega⟩
  else char (Char.ofNat n)

instance : LT Code := ⟨fun a b => a.toNat < b.toNat⟩

instance (a b : Code) : Decidable (a < b) :=
  inferInstanceAs (Decidable (a.toNat < b.toNat))

/-- The character that a code point is, if it is one. -/
def char? : Code → Option Char
  | char c => some c
  | surrogate _ => none

/-- Whether a code point is a character. -/
def isChar (c : Code) : Bool := c.char?.isSome

/-- Whether a code point is a character of a class. -/
def meets (p : Char → Bool) : Code → Bool
  | char c => p c
  | surrogate _ => false

@[simp] theorem char?_char (c : Char) : (char c).char? = some c := rfl

@[simp] theorem meets_char (p : Char → Bool) (c : Char) :
    (char c).meets p = p c := rfl

@[simp] theorem toNat_char (c : Char) : (char c).toNat = c.toNat := rfl

end Code

/-! ### Texts -/

/-- A text. -/
structure Text where
  ofList ::
  toList : List Code
  deriving DecidableEq, Repr

namespace Text

instance : Inhabited Text := ⟨ofList []⟩

/-- A row of characters as a text. -/
def ofChars (cs : List Char) : Text := ofList (cs.map .char)

/-- A string as a text. -/
def ofString (s : String) : Text := ofChars s.toList

instance : Coe String Text := ⟨ofString⟩

instance : Append Text := ⟨fun s t => ofList (s.toList ++ t.toList)⟩

instance : LT Text := ⟨fun s t => s.toList < t.toList⟩

instance : LE Text := ⟨fun s t => ¬ t < s⟩

instance (s t : Text) : Decidable (s < t) :=
  inferInstanceAs (Decidable (s.toList < t.toList))

instance (s t : Text) : Decidable (s ≤ t) :=
  inferInstanceAs (Decidable (¬ t < s))

/-- Whether a text has no code points. -/
def isEmpty (t : Text) : Bool := t.toList.isEmpty

/-- Whether a text starts with a code point. -/
def startsWith (t : Text) (c : Code) : Bool := t.toList.head? = some c

/-- Whether a text ends with a code point. -/
def endsWith (t : Text) (c : Code) : Bool := t.toList.getLast? = some c

/-- Whether a text has no surrogates. -/
def isPlain (t : Text) : Bool := t.toList.all Code.isChar

/-- The characters of a text; none if a surrogate is among them. -/
def chars? (t : Text) : Option (List Char) := t.toList.mapM Code.char?

@[simp] theorem toList_ofChars (cs : List Char) :
    (ofChars cs).toList = cs.map .char := rfl

@[simp] theorem toList_ofString (s : String) :
    (ofString s).toList = s.toList.map .char := rfl

@[simp] theorem toList_append (s t : Text) :
    (s ++ t).toList = s.toList ++ t.toList := rfl

@[ext] theorem ext {s t : Text} (h : s.toList = t.toList) : s = t := by
  cases s
  cases t
  simpa using h

theorem isEmpty_iff {t : Text} : t.isEmpty ↔ t = "" := by
  rw [isEmpty, List.isEmpty_iff]
  exact ⟨ext, fun h => h ▸ rfl⟩

/-- Code points are characters one by one. -/
theorem mapM_char?_eq_some_iff {codes : List Code} {cs : List Char} :
    codes.mapM Code.char? = some cs ↔ codes = cs.map .char := by
  induction codes generalizing cs with
  | nil =>
    simp only [List.mapM_nil, pure, Option.some.injEq]
    cases cs <;> simp
  | cons c codes ih =>
    cases c with
    | surrogate n => cases cs <;> simp [List.mapM_cons, Code.char?]
    | char x =>
      cases cs with
      | nil => simp [List.mapM_cons, Code.char?, Option.bind_eq_some_iff]
      | cons y cs =>
        simp only [List.mapM_cons, Code.char?, Option.bind_eq_bind,
          Option.bind_some, Option.bind_eq_some_iff, ih, List.map_cons,
          List.cons.injEq, Code.char.injEq]
        constructor
        · rintro ⟨_, rfl, h⟩
          obtain ⟨rfl, rfl⟩ := List.cons.inj (Option.some.inj h)
          exact ⟨rfl, rfl⟩
        · rintro ⟨rfl, h⟩
          exact ⟨cs, h, rfl⟩

/-- The texts that have characters are those of characters. -/
theorem chars?_eq_some_iff {t : Text} {cs : List Char} :
    t.chars? = some cs ↔ t = ofChars cs := by
  rw [chars?, mapM_char?_eq_some_iff]
  exact ⟨ext, fun h => h ▸ rfl⟩

@[simp] theorem chars?_ofChars (cs : List Char) :
    (ofChars cs).chars? = some cs :=
  chars?_eq_some_iff.mpr rfl

/-- Different strings are different texts. -/
@[simp] theorem ofString_inj {s t : String} :
    ofString s = ofString t ↔ s = t := by
  refine ⟨fun h => ?_, congrArg ofString⟩
  have hcodes : s.toList.map Code.char = t.toList.map Code.char :=
    congrArg toList h
  exact String.toList_inj.mp
    ((List.map_inj_right fun _ _ => Code.char.inj).mp hcodes)

/-- A string after another one is a text after another one. -/
theorem ofString_append (s t : String) :
    ofString (s ++ t) = ofString s ++ ofString t := by
  apply ext
  simp

end Text

end ApiBook
