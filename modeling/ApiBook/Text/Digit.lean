/-
Characters that stand for numbers.

* `decimalValue?`: the value of a decimal digit of any script;
* `hexValue?`, `hexDigit`: hexadecimal digits, read in either letter case
  and written in lower case; `hexNumber?`, `hexPadded`: rows of them;
* `sextet?`: the six bits of a letter of Base64; `decodeBase64?`: the
  bytes of a text of such letters, those that are none passed over.
-/

namespace ApiBook.Text

/-! ### Decimal digits -/

/-- The code points of the digit zero in each of the scripts of
Unicode 14; the nine digits that follow it have the values one to
nine. -/
def digitZeros : List Nat := [
  0x30, 0x660, 0x6F0, 0x7C0, 0x966, 0x9E6, 0xA66, 0xAE6, 0xB66, 0xBE6,
  0xC66, 0xCE6, 0xD66, 0xDE6, 0xE50, 0xED0, 0xF20, 0x1040, 0x1090,
  0x17E0, 0x1810, 0x1946, 0x19D0, 0x1A80, 0x1A90, 0x1B50, 0x1BB0,
  0x1C40, 0x1C50, 0xA620, 0xA8D0, 0xA900, 0xA9D0, 0xA9F0, 0xAA50,
  0xABF0, 0xFF10, 0x104A0, 0x10D30, 0x11066, 0x110F0, 0x11136, 0x111D0,
  0x112F0, 0x11450, 0x114D0, 0x11650, 0x116C0, 0x11730, 0x118E0,
  0x11950, 0x11C50, 0x11D50, 0x11DA0, 0x16A60, 0x16AC0, 0x16B50,
  0x1D7CE, 0x1D7D8, 0x1D7E2, 0x1D7EC, 0x1D7F6, 0x1E140, 0x1E2F0,
  0x1E950, 0x1FBF0]

/-- The value of a decimal digit of any script. -/
def decimalValue? (c : Char) : Option Nat :=
  (digitZeros.find? fun z => z ≤ c.toNat && c.toNat < z + 10).map
    fun z => c.toNat - z

/-! ### Hexadecimal digits -/

/-- The value of a hexadecimal digit. -/
def hexValue? (c : Char) : Option Nat :=
  let n := c.toNat
  if 48 ≤ n && n ≤ 57 then some (n - 48)
  else if 97 ≤ n && n ≤ 102 then some (n - 87)
  else if 65 ≤ n && n ≤ 70 then some (n - 55)
  else none

/-- The lower-case digit of a value below sixteen. -/
def hexDigit (n : Nat) : Char :=
  if n < 10 then Char.ofNat (48 + n) else Char.ofNat (87 + n)

/-- The last `width` digits of a number in base sixteen. -/
def hexPadded (width : Nat) (n : Nat) : List Char :=
  match width with
  | 0 => []
  | w + 1 => hexPadded w (n / 16) ++ [hexDigit (n % 16)]

/-- The number that a row of hexadecimal digits stands for. -/
def hexNumber? (cs : List Char) : Option Nat :=
  cs.foldl (fun acc c => do return 16 * (← acc) + (← hexValue? c)) (some 0)

/-! ### Letters of six bits -/

/-- The six bits that a letter stands for. -/
def sextet? (c : Char) : Option Nat :=
  if c.isUpper then some (c.toNat - 65)
  else if c.isLower then some (c.toNat - 71)
  else if c.isDigit then some (c.toNat + 4)
  else if c = '+' then some 62
  else if c = '/' then some 63
  else none

/-- The bytes of the rest of a text. `held` letters of a group of four
have been read, the last of them leaving `bits`, and `fill` equals signs
in a row since then. A group is full with two letters at least, if as
many equals signs as are missing follow. -/
def decodeBase64From? (held bits fill : Nat) :
    List Char → Option (List UInt8)
  | [] => if held = 0 then some [] else none
  | c :: cs =>
    if c = '=' then
      if 2 ≤ held && 4 ≤ held + fill + 1 then some []
      else if 2 ≤ held then decodeBase64From? held bits (fill + 1) cs
      else decodeBase64From? held bits fill cs
    else match sextet? c, held with
      | none, held => decodeBase64From? held bits fill cs
      | some n, 0 => decodeBase64From? 1 n 0 cs
      | some n, 1 =>
        (decodeBase64From? 2 (n % 16) 0 cs).map
          ((bits * 4 + n / 16).toUInt8 :: ·)
      | some n, 2 =>
        (decodeBase64From? 3 (n % 4) 0 cs).map
          ((bits * 16 + n / 4).toUInt8 :: ·)
      | some n, _ =>
        (decodeBase64From? 0 0 0 cs).map ((bits * 64 + n).toUInt8 :: ·)

/-- The bytes of a text. -/
def decodeBase64? (cs : List Char) : Option (List UInt8) :=
  decodeBase64From? 0 0 0 cs

end ApiBook.Text
