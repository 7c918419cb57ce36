/-
Tags, anchors and directives of a YAML text.

* `tagMark?`: a tag as its handle and suffix;
* `nameMark?`: the name of an anchor or an alias;
* `directive`: a line that starts with a percent sign.
-/
import ApiBook.Number.Decimal
import ApiBook.Text.Utf8
import ApiBook.Yaml.Cursor
import ApiBook.Yaml.Token

namespace ApiBook.Yaml

/-! ### Names -/

/-- Whether a character may follow the name of an anchor or alias. -/
def endsName (x : Char) : Bool :=
  isWideGap x || "?:,]\x7d%@`".toList.contains x

/-- The name of an anchor or alias; `c` is the place of its mark. -/
def nameMark? (c : Cursor) : Option (String × Cursor) :=
  let (name, c) := c.next.takeWhile isWordChar
  if name.isEmpty || !endsName c.here then none
  else some (String.ofList name, c)

/-! ### Tags -/

/-- Characters of a tag after its handle. -/
def isTagChar (x : Char) : Bool :=
  x.isAlphanum || "-;/?:@&=+$,_.!~*'()[]%".toList.contains x

/-- Whether every percent sign starts an escape. -/
def escapesFit : List Char → Bool
  | [] => true
  | '%' :: a :: b :: rest =>
    (Text.hexValue? a).isSome && (Text.hexValue? b).isSome && escapesFit rest
  | '%' :: _ => false
  | _ :: rest => escapesFit rest

/-- The part of a tag after its handle, escapes read. -/
def tagSuffix? (c : Cursor) : Option (String × Cursor) :=
  let (suffix, c) := c.takeWhile isTagChar
  if suffix.isEmpty || !escapesFit suffix then none
  else
    (Text.decodeUtf8? (Text.percentBytes suffix)).map fun cs =>
      (String.ofList cs, c)

/-- The handle of a tag: one exclamation mark, or a word between two. -/
def tagHandle? (c : Cursor) : Option (String × Cursor) :=
  if c.here ≠ '!' then none
  else if c.peek 1 = ' ' then some ("!", c.next)
  else
    let (word, after) := c.next.takeWhile isWordChar
    if after.here = '!' then
      some (String.ofList ('!' :: word ++ ['!']), after.next)
    else none

/-- Whether the word here holds a second exclamation mark. -/
def hasSecondMark (c : Cursor) : Bool :=
  (c.next.takeWhile (!isGap ·)).1.contains '!'

/-- A tag; `c` is the place of its exclamation mark. -/
def tagMark? (c : Cursor) : Option (Token × Cursor) := do
  let (token, c) ←
    if c.peek 1 = '<' then do
      let (suffix, c) ← tagSuffix? (c.forward 2)
      if c.here = '>' then pure (Token.tag none suffix, c.next) else none
    else if isWideGap (c.peek 1) then pure (Token.tag none "!", c.next)
    else do
      let (handle, c) ←
        if hasSecondMark c then tagHandle? c else pure ("!", c.next)
      let (suffix, c) ← tagSuffix? c
      pure (Token.tag (some handle) suffix, c)
  if isGap c.here then return (token, c) else none

/-! ### Directives -/

/-- A number of a version. -/
def versionNumber (c : Cursor) : Except Fault (Nat × Cursor) :=
  let (digits, c) := c.takeWhile Char.isDigit
  if digits.isEmpty then .error .malformed
  else if Number.digitLimit < digits.length then
    .error (.number (.tooLong digits.length))
  else .ok (Decimal.toNat digits, c)

/-- The version that a directive asks for. -/
def version (c : Cursor) : Except Fault (Directive × Cursor) := do
  let (major, c) ← versionNumber (c.skipWhile (· == ' '))
  if c.here ≠ '.' then throw .malformed
  let (_, c) ← versionNumber c.next
  if isGap c.here then return (.version major, c) else throw .malformed

/-- The meaning that a directive gives to a handle. -/
def handle? (c : Cursor) : Option (Directive × Cursor) := do
  let (handle, c) ← tagHandle? (c.skipWhile (· == ' '))
  if c.here ≠ ' ' then none
  else
    let (target, c) ← tagSuffix? (c.skipWhile (· == ' '))
    if isGap c.here then return (.handle handle target, c) else none

/-- A directive; `c` is the place of its percent sign. -/
def directive (c : Cursor) : Except Fault (Token × Cursor) := do
  let (name, c) := c.next.takeWhile isWordChar
  if name.isEmpty || !isGap c.here then throw .malformed
  let (d, c) ←
    if name = "YAML".toList then version c
    else if name = "TAG".toList then orMalformed (handle? c)
    else pure (.other, c.skipLine)
  let c ← orMalformed c.endOfLine?
  return (.directive d, c)

end ApiBook.Yaml
