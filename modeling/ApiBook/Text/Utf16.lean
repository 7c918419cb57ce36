/-
Pairs of surrogates, and reading text from units of two or four bytes.

* `pairOf`, `joinSurrogates`: the surrogates of a character beyond the
  first plane, and the character of a pair;
* `joinedCodes`: a row of code points in which halves that stand side by
  side are the character that they make;
* `decodeUtf16?`, `decodeUtf32?`: bytes in groups of two, surrogates
  joined, and in groups of four; a surrogate may stand alone;
* `decodeUtf8Wide?`: well-formed UTF-8 among which surrogates may stand.
-/
import ApiBook.Text.Utf8

namespace ApiBook.Text

/-! ### Pairs -/

/-- The number of the first character beyond the first plane. -/
def planeSize : Nat := 0x10000

/-- The number of surrogates that start a pair, and of those that end
one. -/
def halfCount : Nat := 0x400

/-- The numbers of the two surrogates of a character beyond the first
plane. -/
def pairOf (c : Char) : Nat × Nat :=
  (Code.surrogateBase + (c.toNat - planeSize) / halfCount,
    Code.surrogateBase + halfCount + (c.toNat - planeSize) % halfCount)

/-- The character of two surrogates, if they are the first and the second
of a pair. -/
def joinSurrogates? (a b : Fin 2048) : Option Char :=
  if a < halfCount && halfCount ≤ b then
    some (Char.ofNat (planeSize + a * halfCount + (b - halfCount)))
  else none

/-- A code point before others. If it is the first half of a pair and the
second half comes next, the character that they make stands for them. -/
def joinHead : Code → List Code → List Code
  | .surrogate a, .surrogate b :: cs =>
    match joinSurrogates? a b with
    | some c => .char c :: cs
    | none => .surrogate a :: .surrogate b :: cs
  | c, cs => c :: cs

/-- A row of code points in which two surrogates side by side, the first
and the second of a pair, are the character that they make. -/
def joinedCodes (cs : List Code) : List Code := cs.foldr joinHead []

/-! ### Units of bytes -/

/-- Which byte of a unit comes first. -/
inductive ByteOrder where
  | little
  | big
  deriving DecidableEq, Repr

/-- The number that bytes stand for, most significant byte first. -/
def bigEndian (bs : List UInt8) : Nat :=
  bs.foldl (fun acc b => acc * 256 + b.toNat) 0

/-- The number that the bytes of one unit stand for. -/
def ByteOrder.number (o : ByteOrder) (bs : List UInt8) : Nat :=
  match o with
  | .big => bigEndian bs
  | .little => bigEndian bs.reverse

/-- Bytes in groups of `n + 1`; none if some are left over. -/
def groups? (n : Nat) (bs : List UInt8) : Option (List (List UInt8)) :=
  match bs with
  | [] => some []
  | b :: rest =>
    if rest.length < n then none
    else (groups? n (rest.drop n)).map ((b :: rest.take n) :: ·)
termination_by bs.length
decreasing_by simp only [List.length_drop, List.length_cons]; omega

/-- The text of bytes in units of two. -/
def decodeUtf16? (o : ByteOrder) (bs : List UInt8) : Option (List Code) :=
  (groups? 1 bs).map fun gs =>
    joinedCodes (gs.map (Code.ofNat <| o.number ·))

/-- The text of bytes in units of four; no unit may be above the last
code point. -/
def decodeUtf32? (o : ByteOrder) (bs : List UInt8) : Option (List Code) :=
  ((groups? 3 bs).map (·.map o.number)).bind fun ns =>
    if ns.all (· < 0x110000) then some (ns.map Code.ofNat) else none

/-! ### Surrogates in UTF-8 -/

/-- The surrogate that three bytes stand for at the head of a row. -/
def leadSurrogate? : List UInt8 → Option Code
  | a :: b :: c :: _ =>
    if a == 0xED && 0xA0 ≤ b && b ≤ 0xBF && isContinuation c then
      some (.ofNat (0xD000 + b.toNat % 64 * 64 + c.toNat % 64))
    else none
  | _ => none

/-- The text of bytes that are well-formed but for surrogates. -/
def decodeUtf8Wide? (bs : List UInt8) : Option (List Code) :=
  match bs with
  | [] => some []
  | b :: rest =>
    match leadSurrogate? (b :: rest) with
    | some c => (decodeUtf8Wide? (rest.drop 2)).map (c :: ·)
    | none =>
      match readUtf8Char b rest with
      | (none, _) => none
      | (some c, n) => (decodeUtf8Wide? (rest.drop n)).map (.char c :: ·)
termination_by bs.length
decreasing_by
  all_goals simp only [List.length_drop, List.length_cons]; omega

end ApiBook.Text
