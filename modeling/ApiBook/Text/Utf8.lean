/-
Reading and writing UTF-8, and escapes for its bytes.

* `leadShape?`: how many bytes follow a first byte, and between which
  bounds the second one lies, by the table of well-formed sequences;
* `decodeUtf8?`: the text of well-formed bytes;
* `decodeUtf8Lossy`: the text of any bytes, every maximal part of an
  ill-formed sequence read as one U+FFFD;
* `encodeUtf8`: the bytes of a text;
* `percentBytes`: the bytes of a text, percent escapes replaced by the
  bytes they stand for;
* `percentDecode`: a text with its escapes read as UTF-8, run by run of
  ASCII characters.
-/
import ApiBook.Text.Basic
import ApiBook.Text.Digit

namespace ApiBook.Text

/-- The character U+FFFD, which stands for bytes that cannot be read. -/
def replacement : Char := Char.ofNat 0xFFFD

/-- For a first byte above 0x7F: the number of bytes that follow, and
the bounds of the first of them. -/
def leadShape? (b : UInt8) : Option (Nat × UInt8 × UInt8) :=
  if 0xC2 ≤ b && b ≤ 0xDF then some (1, 0x80, 0xBF)
  else if b == 0xE0 then some (2, 0xA0, 0xBF)
  else if b == 0xED then some (2, 0x80, 0x9F)
  else if 0xE1 ≤ b && b ≤ 0xEF then some (2, 0x80, 0xBF)
  else if b == 0xF0 then some (3, 0x90, 0xBF)
  else if b == 0xF4 then some (3, 0x80, 0x8F)
  else if 0xF1 ≤ b && b ≤ 0xF3 then some (3, 0x80, 0xBF)
  else none

/-- The bits that a first byte contributes when `follow` bytes come
after it. -/
def leadBits (b : UInt8) (follow : Nat) : Nat :=
  match follow with
  | 0 => b.toNat
  | 1 => b.toNat % 32
  | 2 => b.toNat % 16
  | _ => b.toNat % 8

/-- Whether a byte continues a sequence. -/
def isContinuation (b : UInt8) : Bool := 0x80 ≤ b && b ≤ 0xBF

/-- One step of a reading: the character that the first bytes stand for,
or `none` for the longest part of a sequence that starts well, and the
number of bytes it takes beyond the first. -/
def readUtf8Char (b : UInt8) (bs : List UInt8) : Option Char × Nat :=
  if b < 0x80 then (some (Char.ofNat b.toNat), 0)
  else match leadShape? b with
    | none => (none, 0)
    | some (follow, lo, hi) =>
      match bs with
      | [] => (none, 0)
      | c :: rest =>
        if c < lo || hi < c then (none, 0)
        else
          let tail := (rest.take (follow - 1)).takeWhile isContinuation
          if tail.length = follow - 1 then
            (some (Char.ofNat ((c :: tail).foldl
              (fun acc x => acc * 64 + x.toNat % 64) (leadBits b follow))),
              follow)
          else (none, 1 + tail.length)

/-- The text of well-formed bytes. -/
def decodeUtf8? (bs : List UInt8) : Option (List Char) :=
  match bs with
  | [] => some []
  | b :: rest =>
    match readUtf8Char b rest with
    | (none, _) => none
    | (some c, n) => (decodeUtf8? (rest.drop n)).map (c :: ·)
termination_by bs.length
decreasing_by simp only [List.length_drop, List.length_cons]; omega

/-- The text of any bytes, with U+FFFD for each maximal part of an
ill-formed sequence. -/
def decodeUtf8Lossy (bs : List UInt8) : List Char :=
  match bs with
  | [] => []
  | b :: rest =>
    match readUtf8Char b rest with
    | (c, n) => c.getD replacement :: decodeUtf8Lossy (rest.drop n)
termination_by bs.length
decreasing_by simp only [List.length_drop, List.length_cons]; omega

/-- The bytes of a character. -/
def encodeUtf8Char (c : Char) : List UInt8 :=
  let n := c.toNat
  if n < 0x80 then [n.toUInt8]
  else if n < 0x800 then [(0xC0 + n / 64).toUInt8, (0x80 + n % 64).toUInt8]
  else if n < 0x10000 then
    [(0xE0 + n / 4096).toUInt8, (0x80 + n / 64 % 64).toUInt8,
      (0x80 + n % 64).toUInt8]
  else
    [(0xF0 + n / 262144).toUInt8, (0x80 + n / 4096 % 64).toUInt8,
      (0x80 + n / 64 % 64).toUInt8, (0x80 + n % 64).toUInt8]

/-- The bytes of a text. -/
def encodeUtf8 (cs : List Char) : List UInt8 := cs.flatMap encodeUtf8Char

/-! ### Percent escapes -/

/-- The bytes of a text with its escapes replaced; a percent sign
without two hexadecimal digits stands for itself. -/
def percentBytes : List Char → List UInt8
  | [] => []
  | c :: cs =>
    if c = '%' then
      match cs with
      | a :: b :: rest =>
        match hexValue? a, hexValue? b with
        | some hi, some lo => (16 * hi + lo).toUInt8 :: percentBytes rest
        | _, _ => encodeUtf8Char c ++ percentBytes (a :: b :: rest)
      | cs => encodeUtf8Char c ++ percentBytes cs
    else encodeUtf8Char c ++ percentBytes cs
termination_by cs => cs.length

/-- A code point as one of the first 128 characters. -/
def ascii? : Code → Option Char
  | .char c => if c.toNat < 0x80 then some c else none
  | .surrogate _ => none

/-- The rest of a text with its escapes read, `run` being the ASCII
characters that are still to be read together, the last one first. -/
def percentDecodeFrom (run : List Char) : List Code → List Code
  | [] => (decodeUtf8Lossy (percentBytes run.reverse)).map .char
  | c :: cs =>
    match ascii? c with
    | some a => percentDecodeFrom (a :: run) cs
    | none =>
      (decodeUtf8Lossy (percentBytes run.reverse)).map .char
        ++ c :: percentDecodeFrom [] cs

/-- A text with its escapes read. -/
def percentDecode (cs : List Code) : List Code := percentDecodeFrom [] cs

end ApiBook.Text
