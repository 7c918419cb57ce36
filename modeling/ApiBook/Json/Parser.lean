/-
Reading JSON texts.

* `scanString`, `number?`: the two tokens with an inner structure;
* `parseValue`: a value at the head of a text, and what follows it;
* `parseBody`, `parse`: a whole text as one value;
* `decodeBytes?`: the text of a document given as bytes, the encoding being
  told by a byte order mark, or else by where the zero bytes lie among the
  first four.

Readers return the code points that are left, so a fault needs no
position of its own: it is the place where that many are left. How deep
lists and objects may be nested is for the caller to say, as it depends on
the room that the run has left.
-/
import ApiBook.Json.Fault
import ApiBook.Text.Digit
import ApiBook.Text.Utf16
import ApiBook.Value.Basic

namespace ApiBook.Json

/-- What a reader answers: a result and the code points left, or a
fault. -/
abbrev Reading (α : Type) := Except Fault (α × List Code)

/-- The four characters that may stand between tokens. -/
def isSpace (c : Char) : Bool :=
  c = ' ' || c = '\t' || c = '\n' || c = '\r'

/-- What is left after the spaces at the head of a text. -/
def skipSpace (cs : List Code) : List Code :=
  cs.dropWhile (Code.meets isSpace)

/-! ### Strings -/

/-- The character that a letter stands for after a backslash. -/
def escaped? : Char → Option Char
  | '"' => some '"'
  | '\\' => some '\\'
  | '/' => some '/'
  | 'b' => some (Char.ofNat 8)
  | 'f' => some (Char.ofNat 12)
  | 'n' => some '\n'
  | 'r' => some '\r'
  | 't' => some '\t'
  | _ => none

/-- The number that a row of hexadecimal digits stands for. -/
def hexNumber? (cs : List Code) : Option Nat :=
  (cs.mapM Code.char?).bind Text.hexNumber?

/-- A code point that is written as an escape, before the others of a
string. Only where an escape follows can the two be the halves of one
character. -/
def beforeRest (c : Code) (writing codes : List Code) : List Code :=
  match writing with
  | .char '\\' :: .char 'u' :: _ => Text.joinHead c codes
  | _ => c :: codes

/-- The inside of a string up to and without the closing quote; `whole` is
the text after the opening quote. A numeric escape is followed by at least
one more code point. -/
def scanString (whole : List Code) : List Code → Reading (List Code)
  | [] => .error ⟨.unterminatedString, whole.length + 1⟩
  | .char '"' :: cs => .ok ([], cs)
  | [.char '\\'] => .error ⟨.unterminatedString, whole.length + 1⟩
  | .char '\\' :: .char 'u' :: cs =>
    match cs with
    | a :: b :: c :: d :: e :: rest =>
      match hexNumber? [a, b, c, d] with
      | none => .error ⟨.unicodeEscape, cs.length + 1⟩
      | some n =>
        match scanString whole (e :: rest) with
        | .ok (codes, left) =>
          .ok (beforeRest (.ofNat n) (e :: rest) codes, left)
        | .error f => .error f
    | _ => .error ⟨.unicodeEscape, cs.length + 1⟩
  | .char '\\' :: c :: cs =>
    match c.char?.bind escaped? with
    | none => .error ⟨.unknownEscape, cs.length + 2⟩
    | some x =>
      match scanString whole cs with
      | .ok (codes, left) => .ok (.char x :: codes, left)
      | .error f => .error f
  | c :: cs =>
    if c.toNat < 0x20 then .error ⟨.controlCharacter, cs.length + 1⟩
    else
      match scanString whole cs with
      | .ok (codes, left) => .ok (c :: codes, left)
      | .error f => .error f

/-- A string after its opening quote. -/
def parseString (cs : List Code) : Reading Text :=
  match scanString cs cs with
  | .ok (codes, left) => .ok (.ofList codes, left)
  | .error f => .error f

/-! ### Numbers -/

/-- The whole part of a number: one zero, or digits that start with
another one. -/
def wholePart? : List Char → Option (List Char × List Char)
  | [] => none
  | c :: cs =>
    if c = '0' then some (['0'], cs)
    else if c.isDigit then
      some (c :: cs.takeWhile Char.isDigit, cs.dropWhile Char.isDigit)
    else none

/-- The digits after a decimal point; a point without digits is not
part of the number. -/
def fraction : List Char → List Char × List Char
  | '.' :: c :: cs =>
    if c.isDigit then
      (c :: cs.takeWhile Char.isDigit, cs.dropWhile Char.isDigit)
    else ([], '.' :: c :: cs)
  | cs => ([], cs)

/-- A sign, if there is one. -/
def signed : List Char → Bool × List Char
  | '-' :: cs => (true, cs)
  | '+' :: cs => (false, cs)
  | cs => (false, cs)

/-- The power of ten after an `e`; an `e` without digits is not part of
the number. -/
def exponent? (cs : List Char) : Option (Int × List Char) :=
  match cs with
  | e :: rest =>
    if e = 'e' || e = 'E' then
      let (negative, digits) := signed rest
      let power := digits.takeWhile Char.isDigit
      if power.isEmpty then none
      else
        let n : Int := Decimal.toNat power
        some (if negative then -n else n, digits.dropWhile Char.isDigit)
    else none
  | [] => none

/-- A number without its sign: whole if it has neither a fraction nor an
exponent, the nearest floating-point number if it has. -/
def unsigned? (negative : Bool) (cs : List Char) :
    Option (Number × List Char) :=
  match wholePart? cs with
  | none => none
  | some (whole, cs) =>
    let (frac, cs) := fraction cs
    match exponent? cs with
    | none =>
      if frac.isEmpty then
        let n : Int := Decimal.toNat whole
        some (.whole (if negative then -n else n), cs)
      else
        some (.float (.ofDecimal negative (Decimal.toNat (whole ++ frac))
          (-frac.length)), cs)
    | some (power, cs) =>
      some (.float (.ofDecimal negative (Decimal.toNat (whole ++ frac))
        (power - frac.length)), cs)

/-- A number at the head of a text. -/
def number? : List Char → Option (Number × List Char)
  | '-' :: cs => unsigned? true cs
  | cs => unsigned? false cs

/-! ### Values -/

/-- The words that stand for values. -/
def literals : List (String × Value) := [
  ("null", .null), ("true", .bool true), ("false", .bool false),
  ("NaN", .float .nan), ("Infinity", .float (.infinite false)),
  ("-Infinity", .float (.infinite true))]

/-- What is left of a text after a word it starts with. -/
def afterWord? : List Char → List Code → Option (List Code)
  | [], cs => some cs
  | _ :: _, [] => none
  | w :: ws, c :: cs => if c = .char w then afterWord? ws cs else none

/-- The number of digits in the whole part of a number. -/
def wholeDigits : List Char → Nat
  | '-' :: cs => ((wholePart? cs).map (·.1.length)).getD 0
  | cs => ((wholePart? cs).map (·.1.length)).getD 0

/-- Whether a character may be a part of a number. -/
def isNumeral (c : Char) : Bool :=
  c.isDigit || c = '-' || c = '+' || c = '.' || c = 'e' || c = 'E'

/-- The characters at the head of a text that may be parts of a number,
and what follows them. -/
def numerals : List Code → List Char × List Code
  | .char c :: cs =>
    if isNumeral c then (c :: (numerals cs).1, (numerals cs).2)
    else ([], .char c :: cs)
  | cs => ([], cs)

/-- A number at the head of a text, if it can be read. -/
def readNumber (cs : List Code) : Reading Value :=
  let (run, rest) := numerals cs
  match number? run with
  | none => .error ⟨.expectedValue, cs.length⟩
  | some (.whole i, left) =>
    if Number.digitLimit < wholeDigits run then
      .error ⟨.tooManyDigits (wholeDigits run), cs.length⟩
    else .ok (.int i, left.map .char ++ rest)
  | some (.float x, left) => .ok (.float x, left.map .char ++ rest)

/-- A word or a number at the head of a text. -/
def readScalar (cs : List Code) : Reading Value :=
  match literals.findSome? fun (word, v) =>
      (afterWord? word.toList cs).map fun rest => (v, rest) with
  | some r => .ok r
  | none => readNumber cs

mutual

/-- A value at the head of a text. Lists and objects may be nested
`depth` times. -/
def parseValue (depth fuel : Nat) (cs : List Code) : Reading Value :=
  match fuel with
  | 0 => .error ⟨.expectedValue, cs.length⟩
  | fuel + 1 =>
    match depth, cs with
    | _, .char '"' :: rest =>
      match parseString rest with
      | .ok (s, left) => .ok (.text s, left)
      | .error f => .error f
    | 0, .char '[' :: rest => .error ⟨.tooDeep, rest.length + 1⟩
    | 0, .char '{' :: rest => .error ⟨.tooDeep, rest.length + 1⟩
    | depth + 1, .char '[' :: rest =>
      match skipSpace rest with
      | .char ']' :: left => .ok (.list [], left)
      | rest =>
        match parseItems depth fuel rest with
        | .ok (items, left) => .ok (.list items, left)
        | .error f => .error f
    | depth + 1, .char '{' :: rest =>
      match skipSpace rest with
      | .char '}' :: left => .ok (.object [], left)
      | rest =>
        match parsePairs depth fuel rest with
        | .ok (pairs, left) => .ok (.object (Members.ofPairs pairs), left)
        | .error f => .error f
    | _, cs => readScalar cs

/-- The items of a list up to its closing bracket. -/
def parseItems (depth fuel : Nat) (cs : List Code) : Reading (List Value) :=
  match fuel with
  | 0 => .error ⟨.expectedValue, cs.length⟩
  | fuel + 1 =>
    match parseValue depth fuel cs with
    | .error f => .error f
    | .ok (v, rest) =>
      match skipSpace rest with
      | .char ']' :: left => .ok ([v], left)
      | .char ',' :: rest =>
        match parseItems depth fuel (skipSpace rest) with
        | .ok (vs, left) => .ok (v :: vs, left)
        | .error f => .error f
      | rest => .error ⟨.expectedComma, rest.length⟩

/-- The members of an object up to its closing brace. -/
def parsePairs (depth fuel : Nat) (cs : List Code) :
    Reading (List (Text × Value)) :=
  match fuel with
  | 0 => .error ⟨.expectedName, cs.length⟩
  | fuel + 1 =>
    match cs with
    | .char '"' :: rest =>
      match parseString rest with
      | .error f => .error f
      | .ok (key, rest) =>
        match skipSpace rest with
        | .char ':' :: rest =>
          match parseValue depth fuel (skipSpace rest) with
          | .error f => .error f
          | .ok (v, rest) =>
            match skipSpace rest with
            | .char '}' :: left => .ok ([(key, v)], left)
            | .char ',' :: rest =>
              match parsePairs depth fuel (skipSpace rest) with
              | .ok (pairs, left) => .ok ((key, v) :: pairs, left)
              | .error f => .error f
            | rest => .error ⟨.expectedComma, rest.length⟩
        | rest => .error ⟨.expectedColon, rest.length⟩
    | cs => .error ⟨.expectedName, cs.length⟩

end

/-- A whole text as one value, with nothing but space around it. Lists and
objects may be nested `depth` times. -/
def parseBody (depth : Nat) (cs : List Code) : Except Fault Value :=
  match parseValue depth (2 * cs.length + 2) (skipSpace cs) with
  | .error f => .error f
  | .ok (v, rest) =>
    match skipSpace rest with
    | [] => .ok v
    | rest => .error ⟨.extraData, rest.length⟩

/-- A whole text as one value. A byte order mark is for bytes, and text
that starts with one is refused. -/
def parse (depth : Nat) (t : Text) : Except Fault Value :=
  if t.startsWith (.char (Char.ofNat 0xFEFF)) then
    .error ⟨.byteOrderMark, t.toList.length⟩
  else parseBody depth t.toList

/-! ### Bytes -/

/-- Ways to write a text as bytes. -/
inductive Encoding where
  | utf8
  | utf16 (order : Text.ByteOrder)
  | utf32 (order : Text.ByteOrder)
  deriving DecidableEq, Repr

/-- The encoding of a document, and the number of bytes that its mark
takes. -/
def detect : List UInt8 → Encoding × Nat
  | 0x00 :: 0x00 :: 0xFE :: 0xFF :: _ => (.utf32 .big, 4)
  | 0xFF :: 0xFE :: 0x00 :: 0x00 :: _ => (.utf32 .little, 4)
  | 0xFE :: 0xFF :: _ => (.utf16 .big, 2)
  | 0xFF :: 0xFE :: _ => (.utf16 .little, 2)
  | 0xEF :: 0xBB :: 0xBF :: _ => (.utf8, 3)
  | a :: b :: c :: d :: _ =>
    if a == 0 then (if b == 0 then .utf32 .big else .utf16 .big, 0)
    else if b == 0 then
      (if c == 0 && d == 0 then .utf32 .little else .utf16 .little, 0)
    else (.utf8, 0)
  | [a, b] =>
    if a == 0 then (.utf16 .big, 0)
    else if b == 0 then (.utf16 .little, 0)
    else (.utf8, 0)
  | _ => (.utf8, 0)

/-- The text of a document given as bytes, without a mark. There is none
if the bytes do not keep to their encoding. -/
def decodeBytes? (bs : List UInt8) : Option Text :=
  let (encoding, mark) := detect bs
  (match encoding with
    | .utf8 => Text.decodeUtf8Wide? (bs.drop mark)
    | .utf16 order => Text.decodeUtf16? order (bs.drop mark)
    | .utf32 order => Text.decodeUtf32? order (bs.drop mark)).map .ofList

end ApiBook.Json
