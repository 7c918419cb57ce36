/-
A place in a YAML text: what is left of it, with line and column.

* `Cursor.peek`, `Cursor.forward`: looking at characters and passing
  over them;
* `Cursor.lineBreak?`: passing over the end of a line;
* `Cursor.atMarker`: whether a line that starts or ends a document
  begins here.
-/

namespace ApiBook.Yaml

/-! ### Characters -/

/-- What stands for the end of the text. -/
def endChar : Char := Char.ofNat 0

/-- The byte order mark, which takes no column. -/
def byteOrderMark : Char := Char.ofNat 0xFEFF

/-- Characters that end a line. -/
def isBreak (c : Char) : Bool :=
  c = '\n' || c = '\r' || c.toNat = 0x85 || c.toNat = 0x2028
    || c.toNat = 0x2029

/-- The end of a line or of the text. -/
def isLineEnd (c : Char) : Bool := c = endChar || isBreak c

/-- A space, or the end of a line or of the text. -/
def isGap (c : Char) : Bool := c = ' ' || isLineEnd c

/-- A space or tab, or the end of a line or of the text. -/
def isWideGap (c : Char) : Bool := c = '\t' || isGap c

/-- Characters that a text may hold. -/
def isAllowed (c : Char) : Bool :=
  let n := c.toNat
  n = 9 || n = 10 || n = 13 || (0x20 ≤ n && n ≤ 0x7E) || n = 0x85
    || (0xA0 ≤ n && n ≤ 0xD7FF) || (0xE000 ≤ n && n ≤ 0xFFFD)
    || 0x10000 ≤ n

/-- Letters, digits, hyphens and underscores. -/
def isWordChar (c : Char) : Bool := c.isAlphanum || c = '-' || c = '_'

/-! ### Places -/

/-- A place in a text. -/
structure Cursor where
  rest : List Char
  index : Nat
  line : Nat
  column : Nat

namespace Cursor

/-- The start of a text. -/
def start (text : List Char) : Cursor := ⟨text, 0, 0, 0⟩

/-- The character `k` places ahead. -/
def peek (c : Cursor) (k : Nat) : Char := c.rest.getD k endChar

/-- The character here. -/
def here (c : Cursor) : Char := c.peek 0

/-- The place after the character here. -/
def next (c : Cursor) : Cursor :=
  match c.rest with
  | [] => c
  | x :: xs =>
    if isBreak x && !(x = '\r' && xs.head? = some '\n') then
      ⟨xs, c.index + 1, c.line + 1, 0⟩
    else if x = byteOrderMark then ⟨xs, c.index + 1, c.line, c.column⟩
    else ⟨xs, c.index + 1, c.line, c.column + 1⟩

/-- The place after `n` characters. -/
def forward (n : Nat) (c : Cursor) : Cursor :=
  match n with
  | 0 => c
  | n + 1 => forward n c.next

/-- The characters of a class that come next, and the place after
them. -/
def takeWhile (p : Char → Bool) (c : Cursor) : List Char × Cursor :=
  let run := c.rest.takeWhile p
  (run, c.forward run.length)

/-- The place after the characters of a class that come next. -/
def skipWhile (p : Char → Bool) (c : Cursor) : Cursor :=
  (c.takeWhile p).2

/-- The place after the rest of a line. -/
def skipLine (c : Cursor) : Cursor := c.skipWhile (!isBreak ·)

/-- The end of a line as one character, and the place after it. -/
def lineBreak? (c : Cursor) : Option (Char × Cursor) :=
  let x := c.here
  if x = '\r' && c.peek 1 = '\n' then some ('\n', c.forward 2)
  else if x = '\r' || x = '\n' || x.toNat = 0x85 then some ('\n', c.next)
  else if isBreak x then some (x, c.next)
  else none

/-- Three equal characters and a gap. -/
def atTriple (x : Char) (c : Cursor) : Bool :=
  c.peek 0 = x && c.peek 1 = x && c.peek 2 = x && isWideGap (c.peek 3)

/-- Whether the marker of a start or an end of a document comes next. -/
def atMarker (c : Cursor) : Bool := c.atTriple '-' || c.atTriple '.'

/-- The place after spaces and a comment, which have to take the rest of
a line; the end of the line is passed over. -/
def endOfLine? (c : Cursor) : Option Cursor :=
  let c := c.skipWhile (· == ' ')
  let c := if c.here = '#' then c.skipLine else c
  if isLineEnd c.here then some (((c.lineBreak?).map (·.2)).getD c)
  else none

end Cursor

end ApiBook.Yaml
