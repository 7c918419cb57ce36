/-
Cutting a YAML text into tokens.

Block structure comes from columns: a token further to the right opens a
collection, one further to the left closes it. A key of a mapping is
recognised only at the colon after it; until then the place where it
began is kept, and the mark of a key is put there when the colon comes.

* `Lexer`: the tokens so far, and what decides about the next ones;
* `Lexer.step`: one token more;
* `tokens`: the tokens of a whole text, up to the first place that cannot
  be read.
-/
import ApiBook.Yaml.Scalar
import ApiBook.Yaml.Tag

namespace ApiBook.Yaml

/-- The beginning of what may turn out to be a key. -/
structure PendingKey where
  /-- The flow collections around it. -/
  level : Nat
  /-- The number of tokens before it. -/
  place : Nat
  /-- Whether nothing but a key may stand here. -/
  required : Bool
  cursor : Cursor

/-- The state of cutting a text into tokens. -/
structure Lexer where
  cursor : Cursor
  /-- The tokens so far, the last one first. -/
  tokens : List Token
  /-- The number of tokens so far. -/
  count : Nat
  /-- The number of flow collections that are open. -/
  level : Nat
  /-- The column of the innermost block collection. -/
  indent : Int
  /-- The columns of the block collections around it. -/
  outer : List Int
  /-- Whether a key may begin here. -/
  keysAllowed : Bool
  pending : List PendingKey

namespace Lexer

/-- The state at the start of a text. -/
def start (text : List Char) : Lexer where
  cursor := .start text
  tokens := []
  count := 0
  level := 0
  indent := -1
  outer := []
  keysAllowed := true
  pending := []

/-- The state with a token more. -/
def emit (lx : Lexer) (t : Token) : Lexer :=
  { lx with tokens := t :: lx.tokens, count := lx.count + 1 }

/-- The state with a token put in at a place. -/
def insert (lx : Lexer) (place : Nat) (t : Token) : Lexer :=
  let after := lx.count - place
  { lx with
    tokens := lx.tokens.take after ++ t :: lx.tokens.drop after
    count := lx.count + 1 }

/-- The state at another place. -/
def moveTo (lx : Lexer) (c : Cursor) : Lexer := { lx with cursor := c }

/-! ### Space between tokens -/

/-- The state before the next token. After the end of a line a key may
begin, unless a flow collection is open. -/
def skipSpace (fuel : Nat) (lx : Lexer) : Lexer :=
  match fuel with
  | 0 => lx
  | fuel + 1 =>
    let c := lx.cursor.skipWhile (· == ' ')
    let c := if c.here = '#' then c.skipLine else c
    match c.lineBreak? with
    | some (_, c) =>
      skipSpace fuel
        { lx with cursor := c
                  keysAllowed := lx.keysAllowed || lx.level == 0 }
    | none => lx.moveTo c

/-- The state after a byte order mark at the head of the text. -/
def skipMark (lx : Lexer) : Lexer :=
  if lx.cursor.index = 0 && lx.cursor.here = byteOrderMark then
    lx.moveTo lx.cursor.next
  else lx

/-! ### Keys -/

/-- The longest way from the beginning of a key to its colon. -/
def maxKeyLength : Nat := 1024

/-- Whether what began earlier can no longer be a key. -/
def isStale (lx : Lexer) (k : PendingKey) : Bool :=
  k.cursor.line ≠ lx.cursor.line
    || maxKeyLength < lx.cursor.index - k.cursor.index

/-- The state without keys that can no longer be; it is an error if one
of them had to be a key. -/
def dropStale? (lx : Lexer) : Option Lexer :=
  if lx.pending.any fun k => lx.isStale k && k.required then none
  else some { lx with pending := lx.pending.filter (!lx.isStale ·) }

/-- The state without a key at the present level; it is an error if it
had to be a key. -/
def dropKey? (lx : Lexer) : Option Lexer :=
  if lx.pending.any fun k => k.level == lx.level && k.required then none
  else some { lx with pending := lx.pending.filter (·.level != lx.level) }

/-- The state in which the next token may turn out to be a key. -/
def saveKey? (lx : Lexer) : Option Lexer :=
  if lx.keysAllowed then do
    let lx ← lx.dropKey?
    return { lx with
      pending := ⟨lx.level, lx.count,
        lx.level == 0 && lx.indent == (lx.cursor.column : Int),
        lx.cursor⟩ :: lx.pending }
  else some lx

/-! ### Block collections -/

/-- The state in which block collections right of a column are
closed. -/
def unwind (column : Int) (fuel : Nat) (lx : Lexer) : Lexer :=
  match fuel with
  | 0 => lx
  | fuel + 1 =>
    if column < lx.indent then
      match lx.outer with
      | [] => lx
      | i :: outer =>
        unwind column fuel
          ({ lx with indent := i, outer := outer }.emit .blockEnd)
    else lx

/-- The state in which block collections right of a column are closed;
columns say nothing inside flow collections. -/
def unwindTo (column : Int) (lx : Lexer) : Lexer :=
  if lx.level = 0 then lx.unwind column (lx.outer.length + 1) else lx

/-- The state with a block collection at a column, opened by a token at
a place if there is none yet. -/
def openAt (column place : Nat) (t : Token) (lx : Lexer) : Lexer :=
  if lx.level = 0 && lx.indent < (column : Int) then
    { lx with indent := column, outer := lx.indent :: lx.outer }.insert
      place t
  else lx

/-- The state with a block collection at the present column. -/
def openHere (t : Token) (lx : Lexer) : Lexer :=
  lx.openAt lx.cursor.column lx.count t

/-! ### Tokens -/

/-- The end of the text. -/
def end? (lx : Lexer) : Option Lexer := do
  let lx ← (lx.unwindTo (-1)).dropKey?
  return { lx with keysAllowed := false, pending := [] }.emit .streamEnd

/-- A directive. -/
def directiveLine (lx : Lexer) : Except Fault Lexer := do
  let lx ← orMalformed (lx.unwindTo (-1)).dropKey?
  let (t, c) ← directive lx.cursor
  return ({ lx with keysAllowed := false }.moveTo c).emit t

/-- A marker of a document. -/
def marker? (t : Token) (lx : Lexer) : Option Lexer := do
  let lx ← (lx.unwindTo (-1)).dropKey?
  return ({ lx with keysAllowed := false }.moveTo
    (lx.cursor.forward 3)).emit t

/-- The start of a flow collection. -/
def flowStart? (t : Token) (lx : Lexer) : Option Lexer := do
  let lx ← lx.saveKey?
  return ({ lx with level := lx.level + 1, keysAllowed := true }.moveTo
    lx.cursor.next).emit t

/-- The end of a flow collection. -/
def flowEnd? (t : Token) (lx : Lexer) : Option Lexer := do
  let lx ← lx.dropKey?
  if lx.level = 0 then none
  else
    return ({ lx with level := lx.level - 1, keysAllowed := false }.moveTo
      lx.cursor.next).emit t

/-- The comma between the items of a flow collection. -/
def flowEntry? (lx : Lexer) : Option Lexer := do
  let lx ← lx.dropKey?
  return ({ lx with keysAllowed := true }.moveTo lx.cursor.next).emit
    .flowEntry

/-- The hyphen before an item of a block sequence. -/
def blockEntry? (lx : Lexer) : Option Lexer :=
  if lx.level = 0 && !lx.keysAllowed then none
  else do
    let lx ← (lx.openHere .blockSequenceStart).dropKey?
    return ({ lx with keysAllowed := true }.moveTo lx.cursor.next).emit
      .blockEntry

/-- The question mark before a key. -/
def explicitKey? (lx : Lexer) : Option Lexer :=
  if lx.level = 0 && !lx.keysAllowed then none
  else do
    let lx ← (lx.openHere .blockMappingStart).dropKey?
    return ({ lx with keysAllowed := lx.level == 0 }.moveTo
      lx.cursor.next).emit .key

/-- The colon after a key: what began before it is marked as the key, or
else a question mark came before. -/
def valueMark? (lx : Lexer) : Option Lexer :=
  match lx.pending.find? (·.level == lx.level) with
  | some k =>
    let lx := { lx with
      pending := lx.pending.filter (·.level != lx.level)
      keysAllowed := false }
    let lx := (lx.insert k.place .key).openAt k.cursor.column k.place
      .blockMappingStart
    some ((lx.moveTo lx.cursor.next).emit .value)
  | none =>
    if lx.level = 0 && !lx.keysAllowed then none
    else do
      let lx ← (lx.openHere .blockMappingStart).dropKey?
      return ({ lx with keysAllowed := lx.level == 0 }.moveTo
        lx.cursor.next).emit .value

/-- An alias or an anchor. -/
def name? (t : String → Token) (lx : Lexer) : Option Lexer := do
  let lx ← lx.saveKey?
  let (name, c) ← nameMark? lx.cursor
  return ({ lx with keysAllowed := false }.moveTo c).emit (t name)

/-- A tag. -/
def tag? (lx : Lexer) : Option Lexer := do
  let lx ← lx.saveKey?
  let (t, c) ← tagMark? lx.cursor
  return ({ lx with keysAllowed := false }.moveTo c).emit t

/-- A block scalar. -/
def blockScalar? (folded : Bool) (lx : Lexer) : Option Lexer := do
  let lx ← lx.dropKey?
  let (s, c) ← block? folded lx.indent lx.cursor
  return ({ lx with keysAllowed := true }.moveTo c).emit (.scalar s false)

/-- A quoted scalar. -/
def quotedScalar (double : Bool) (lx : Lexer) : Except Fault Lexer := do
  let lx ← orMalformed lx.saveKey?
  let (s, c) ← quoted double lx.cursor
  return ({ lx with keysAllowed := false }.moveTo c).emit (.scalar s false)

/-- A plain scalar. -/
def plainScalar? (lx : Lexer) : Option Lexer := do
  let lx ← lx.saveKey?
  let p := plain (lx.level != 0) (lx.indent + 1) lx.cursor
  return ({ lx with keysAllowed := p.broken }.moveTo p.cursor).emit
    (.scalar (.ofChars p.text) true)

/-- Marks that cannot begin a plain scalar. -/
def plainStops : List Char := "-?:,[]\x7b\x7d#&*!|>'\"%@`".toList

/-- Whether a plain scalar begins here: with a mark only if the mark is
followed by text. -/
def startsPlain (lx : Lexer) : Bool :=
  let x := lx.cursor.here
  (!isWideGap x && !plainStops.contains x)
    || (!isWideGap (lx.cursor.peek 1)
      && (x = '-' || (lx.level = 0 && (x = '?' || x = ':'))))

/-- The mark of structure, or the scalar without quotes, that comes
next. -/
def mark? (lx : Lexer) : Option Lexer :=
  let c := lx.cursor
  let x := c.here
  let gapNext := isWideGap (c.peek 1)
  let atStart := c.column == 0
  if atStart && c.atTriple '-' then lx.marker? .documentStart
  else if atStart && c.atTriple '.' then lx.marker? .documentEnd
  else if x = '[' then lx.flowStart? .flowSequenceStart
  else if x = '\x7b' then lx.flowStart? .flowMappingStart
  else if x = ']' then lx.flowEnd? .flowSequenceEnd
  else if x = '\x7d' then lx.flowEnd? .flowMappingEnd
  else if x = ',' then lx.flowEntry?
  else if x = '-' && gapNext then lx.blockEntry?
  else if x = '?' && (lx.level != 0 || gapNext) then lx.explicitKey?
  else if x = ':' && (lx.level != 0 || gapNext) then lx.valueMark?
  else if x = '*' then lx.name? .alias
  else if x = '&' then lx.name? .anchor
  else if x = '!' then lx.tag?
  else if x = '|' && lx.level == 0 then lx.blockScalar? false
  else if x = '>' && lx.level == 0 then lx.blockScalar? true
  else if lx.startsPlain then lx.plainScalar?
  else none

/-- The state before the next token: keys that can no longer be are
forgotten, and block collections that end here are closed. -/
def ready? (lx : Lexer) : Option Lexer :=
  ((lx.skipMark.skipSpace (lx.cursor.rest.length + 1)).dropStale?).map
    fun lx => lx.unwindTo lx.cursor.column

/-- One token more, if no more than `depth` flow collections are open; the
flag tells that it was the last one. -/
def step (depth : Nat) (lx : Lexer) : Except Fault (Lexer × Bool) := do
  if depth < lx.level then throw .tooDeep
  let lx ← orMalformed lx.ready?
  let x := lx.cursor.here
  if lx.cursor.rest.isEmpty then return (← orMalformed lx.end?, true)
  let lx ←
    if x = '%' && lx.cursor.column == 0 then lx.directiveLine
    else if x = '\'' then lx.quotedScalar false
    else if x = '"' then lx.quotedScalar true
    else orMalformed lx.mark?
  return (lx, false)

/-- The number of tokens that are settled: all before the first one that
may turn out to be a key. -/
def settled (lx : Lexer) : Nat :=
  (lx.pending.filter (!lx.isStale ·)).foldl (min · ·.place) lx.count

/-- The tokens where the text cannot be read any further. -/
def broken (lx : Lexer) (f : Fault) : List Token :=
  (lx.tokens.drop (lx.count - lx.settled)).reverse ++ [.unreadable f]

/-- Tokens up to the end of the text, or up to the place that cannot be
read. -/
def run (depth fuel : Nat) (lx : Lexer) : List Token :=
  match fuel with
  | 0 => lx.broken .malformed
  | fuel + 1 =>
    match lx.step depth with
    | .error f => lx.broken f
    | .ok (lx, true) => lx.tokens.reverse
    | .ok (lx, false) => lx.run depth fuel

end Lexer

/-- The tokens of a text in which flow collections may be nested to a
depth. -/
def tokens (depth : Nat) (text : List Char) : List Token :=
  (Lexer.start text).run depth (text.length + 2)

end ApiBook.Yaml
