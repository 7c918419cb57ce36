/-
The scalars of a YAML text: quoted, plain, and in blocks.

* `quoted`: the text between quotes, lines folded and escapes read;
* `plain`: the text without quotes, up to what cannot belong to it;
* `block?`: the lines of a block, kept or folded.
-/
import ApiBook.Text.Digit
import ApiBook.Yaml.Cursor
import ApiBook.Yaml.Token

namespace ApiBook.Yaml

/-- A run of line ends as it counts inside folded text: a single line
feed becomes a space, and of more the first one is dropped. -/
def foldBreaks (first : Char) (others : List Char) : List Char :=
  (if first ≠ '\n' then [first] else if others.isEmpty then [' '] else [])
    ++ others

/-! ### Quoted scalars -/

/-- Empty lines inside quotes, with the space at the head of the line
after them; a marker of a document may not come here. -/
def quotedBreaks? (fuel : Nat) (c : Cursor) :
    Option (List Char × Cursor) :=
  match fuel with
  | 0 => none
  | fuel + 1 =>
    if c.atMarker then none
    else
      let c := c.skipWhile fun x => x = ' ' || x = '\t'
      match c.lineBreak? with
      | none => some ([], c)
      | some (x, c) =>
        (quotedBreaks? fuel c).map fun (xs, c) => (x :: xs, c)

/-- The character for a letter after a backslash. -/
def escaped? (x : Char) : Option Char :=
  if x = '0' then some (Char.ofNat 0)
  else if x = 'a' then some (Char.ofNat 7)
  else if x = 'b' then some (Char.ofNat 8)
  else if x = 't' || x = '\t' then some '\t'
  else if x = 'n' then some '\n'
  else if x = 'v' then some (Char.ofNat 11)
  else if x = 'f' then some (Char.ofNat 12)
  else if x = 'r' then some '\r'
  else if x = 'e' then some (Char.ofNat 27)
  else if x = ' ' || x = '"' || x = '\\' || x = '/' then some x
  else if x = 'N' then some (Char.ofNat 0x85)
  else if x = '_' then some (Char.ofNat 0xA0)
  else if x = 'L' then some (Char.ofNat 0x2028)
  else if x = 'P' then some (Char.ofNat 0x2029)
  else none

/-- The number of hexadecimal digits after a letter after a
backslash. -/
def escapeWidth? (x : Char) : Option Nat :=
  if x = 'x' then some 2
  else if x = 'u' then some 4
  else if x = 'U' then some 8
  else none

/-- The first number that is too great to be the code of a character. -/
def codeLimit : Nat := 2147483648

/-- The code point with a code. -/
def coded (n : Nat) : Except Fault Code :=
  if n < 0x110000 then .ok (.ofNat n)
  else if n < codeLimit then .error .noCharacter
  else .error .tooGreat

/-- The code point whose code stands in hexadecimal digits, and the place
after them. -/
def codeEscape (width : Nat) (c : Cursor) :
    Except Fault (List Code × Cursor) := do
  let digits := c.rest.take width
  if digits.length < width then throw .malformed
  let n ← orMalformed (Text.hexNumber? digits)
  return ([← coded n], c.forward width)

/-- Characters as code points, and the place after them. -/
def asCodes (p : List Char × Cursor) : List Code × Cursor :=
  (p.1.map .char, p.2)

/-- What a backslash stands for; `c` is the place after it. -/
def escape (fuel : Nat) (c : Cursor) : Except Fault (List Code × Cursor) :=
  match escaped? c.here, escapeWidth? c.here, c.lineBreak? with
  | some x, _, _ => .ok ([.char x], c.next)
  | _, some width, _ => codeEscape width c.next
  | _, _, some (_, c) => orMalformed ((quotedBreaks? fuel c).map asCodes)
  | _, _, _ => .error .malformed

/-- Space inside quotes: spaces and tabs as they are, or a folded run of
line ends. -/
def quotedSpace? (fuel : Nat) (c : Cursor) : Option (List Char × Cursor) :=
  let (spaces, c) := c.takeWhile fun x => x = ' ' || x = '\t'
  match c.lineBreak? with
  | some (x, c) =>
    (quotedBreaks? fuel c).map fun (xs, c) => (foldBreaks x xs, c)
  | none => some (spaces, c)

/-- The text up to the closing quote. -/
def quotedFrom (double : Bool) (fuel : Nat) (c : Cursor) :
    Except Fault (List Code × Cursor) :=
  match fuel with
  | 0 => .error .malformed
  | fuel + 1 =>
    let x := c.here
    let more := fun (part : List Code) (c : Cursor) =>
      (quotedFrom double fuel c).map fun (xs, c) => (part ++ xs, c)
    if c.rest.isEmpty then .error .malformed
    else if !double && x = '\'' && c.peek 1 = '\'' then
      more [.char '\''] (c.forward 2)
    else if x = (if double then '"' else '\'') then .ok ([], c.next)
    else if double && x = '\\' then
      match escape fuel c.next with
      | .ok (part, c) => more part c
      | .error f => .error f
    else if x = ' ' || x = '\t' || isBreak x then
      match (quotedSpace? fuel c).map asCodes with
      | some (part, c) => more part c
      | none => .error .malformed
    else more [.char x] c.next

/-- A quoted scalar; `c` is the place of the opening quote. -/
def quoted (double : Bool) (c : Cursor) : Except Fault (Text × Cursor) :=
  (quotedFrom double (c.rest.length + 1) c.next).map fun (xs, c) =>
    (.ofList xs, c)

/-! ### Plain scalars -/

/-- The marks of flow collections. -/
def isFlowMark (x : Char) : Bool :=
  x = ',' || x = '[' || x = ']' || x = '\x7b' || x = '\x7d'

/-- Whether a character ends a run of plain text, given what follows
it. -/
def endsPlain (flow : Bool) (x : Char) (after : List Char) : Bool :=
  let y := after.headD endChar
  isWideGap x || (x = ':' && (isWideGap y || (flow && isFlowMark y)))
    || (flow && (isFlowMark x || x = '?'))

/-- A run of plain text. -/
def plainRun (flow : Bool) : List Char → List Char
  | [] => []
  | x :: xs => if endsPlain flow x xs then [] else x :: plainRun flow xs

/-- The line ends and spaces before the next line of plain text; none if
a marker of a document comes first. -/
def plainBreaks? (fuel : Nat) (c : Cursor) :
    Option (List Char × Cursor) × Cursor :=
  match fuel with
  | 0 => (none, c)
  | fuel + 1 =>
    let c := c.skipWhile (· == ' ')
    match c.lineBreak? with
    | none => (some ([], c), c)
    | some (x, c) =>
      if c.atMarker then (none, c)
      else
        match plainBreaks? fuel c with
        | (some (xs, c), _) => (some (x :: xs, c), c)
        | (none, c) => (none, c)

/-- Space inside plain text. -/
structure PlainSpace where
  /-- What the space counts as if more text follows it. -/
  text : List Char
  /-- Whether a line ended. -/
  broken : Bool
  cursor : Cursor

/-- The space after a run of plain text. -/
def plainSpace (c : Cursor) : PlainSpace :=
  let (spaces, c) := c.takeWhile (· == ' ')
  match c.lineBreak? with
  | none => ⟨spaces, false, c⟩
  | some (x, c) =>
    if c.atMarker then ⟨[], true, c⟩
    else
      match plainBreaks? (c.rest.length + 1) c with
      | (some (xs, c), _) => ⟨foldBreaks x xs, true, c⟩
      | (none, c) => ⟨[], true, c⟩

/-- A plain scalar, whether a line ended after it, and the place after
it. -/
structure Plain where
  text : List Char
  broken : Bool
  cursor : Cursor

/-- The rest of a plain scalar: `space` is what stands between the text
so far and what may follow. -/
def plainFrom (flow : Bool) (indent : Int) (fuel : Nat)
    (space : List Char) (broken : Bool) (c : Cursor) : Plain :=
  match fuel with
  | 0 => ⟨[], broken, c⟩
  | fuel + 1 =>
    let run := plainRun flow c.rest
    if c.here = '#' || run.isEmpty then ⟨[], broken, c⟩
    else
      let after := plainSpace (c.forward run.length)
      let stops := after.text.isEmpty || after.cursor.here = '#'
        || (!flow && (after.cursor.column : Int) < indent)
      let rest :=
        if stops then ⟨[], after.broken, after.cursor⟩
        else plainFrom flow indent fuel after.text after.broken after.cursor
      ⟨space ++ run ++ rest.text, rest.broken, rest.cursor⟩

/-- A plain scalar whose further lines have to be indented by
`indent`. -/
def plain (flow : Bool) (indent : Int) (c : Cursor) : Plain :=
  plainFrom flow indent (c.rest.length + 1) [] false c

/-! ### Block scalars -/

/-- What happens to the line ends after a block. -/
inductive Chomping where
  | strip
  | clip
  | keep
  deriving DecidableEq, Repr

/-- The chomping that a mark stands for. -/
def chomping? (x : Char) : Option Chomping :=
  if x = '+' then some .keep else if x = '-' then some .strip else none

/-- The marks after the start of a block: chomping and indentation, in
any order. -/
def blockMarks? (c : Cursor) : Option ((Chomping × Option Nat) × Cursor) :=
  let digit := fun (c : Cursor) =>
    if c.here.isDigit then some (c.here.toNat - 48, c.next) else none
  let result := match chomping? c.here with
    | some ch =>
      match digit c.next with
      | some (n, c) => ((ch, some n), c)
      | none => ((ch, none), c.next)
    | none =>
      match digit c with
      | some (n, c) =>
        match chomping? c.here with
        | some ch => ((ch, some n), c.next)
        | none => ((.clip, some n), c)
      | none => ((.clip, none), c)
  if result.1.2 = some 0 || !isGap result.2.here then none
  else some result

/-- The empty lines at the head of a block, and the greatest column that
is reached in them. -/
def blockIndent (fuel : Nat) (widest : Nat) (c : Cursor) :
    List Char × Nat × Cursor :=
  match fuel with
  | 0 => ([], widest, c)
  | fuel + 1 =>
    if c.here = ' ' then
      blockIndent fuel (max widest c.next.column) c.next
    else
      match c.lineBreak? with
      | some (x, c) =>
        let (xs, widest, c) := blockIndent fuel widest c
        (x :: xs, widest, c)
      | none => ([], widest, c)

/-- The place after the spaces up to a column. -/
def skipIndent (indent : Nat) (fuel : Nat) (c : Cursor) : Cursor :=
  match fuel with
  | 0 => c
  | fuel + 1 =>
    if c.column < indent && c.here = ' ' then
      skipIndent indent fuel c.next
    else c

/-- The empty lines before the next line of a block. -/
def blockBreaks (indent : Nat) (fuel : Nat) (c : Cursor) :
    List Char × Cursor :=
  match fuel with
  | 0 => ([], c)
  | fuel + 1 =>
    let c := skipIndent indent (indent + 1) c
    match c.lineBreak? with
    | some (x, c) =>
      let (xs, c) := blockBreaks indent fuel c
      (x :: xs, c)
    | none => ([], c)

/-- The lines of a block from one that is indented as it should be:
`breaks` are the empty lines before it. -/
def blockLines (folded : Bool) (chomping : Chomping) (indent : Nat)
    (fuel : Nat) (breaks : List Char) (c : Cursor) : List Char × Cursor :=
  match fuel with
  | 0 => ([], c)
  | fuel + 1 =>
    let (line, after) := c.takeWhile (!isBreak ·)
    let (ending, after) := match after.lineBreak? with
      | some (x, after) => ([x], after)
      | none => ([], after)
    let (empty, after) := blockBreaks indent (fuel + 1) after
    let indented := fun (c : Cursor) => c.here = ' ' || c.here = '\t'
    if after.column = indent && !after.rest.isEmpty then
      let between :=
        if folded && ending = ['\n'] && !indented c && !indented after then
          if empty.isEmpty then [' '] else []
        else ending
      let (rest, after) :=
        blockLines folded chomping indent fuel empty after
      (breaks ++ line ++ between ++ rest, after)
    else
      let tail := match chomping with
        | .strip => []
        | .clip => ending
        | .keep => ending ++ empty
      (breaks ++ line ++ tail, after)

/-- A block scalar; `c` is the place of its mark, `indent` the column of
the collection around it. -/
def block? (folded : Bool) (indent : Int) (c : Cursor) :
    Option (Text × Cursor) := do
  let ((chomping, increment), c) ← blockMarks? c.next
  let c ← c.endOfLine?
  let least := (max (indent + 1) 1).toNat
  let fuel := c.rest.length + 1
  let (empty, column, c) := match increment with
    | none =>
      let (empty, widest, c) := blockIndent fuel 0 c
      (empty, max least widest, c)
    | some n =>
      let column := least + n - 1
      let (empty, c) := blockBreaks column fuel c
      (empty, column, c)
  if c.column = column && !c.rest.isEmpty then
    let (text, c) := blockLines folded chomping column fuel empty c
    return (.ofChars text, c)
  else
    return (.ofChars (if chomping = .keep then empty else []), c)

end ApiBook.Yaml
