/-
Laying out a text on a terminal: what is not shown is left out, tabs are
filled up with spaces, and long lines are broken between words.

* `lineWidth`: the cells of a line;
* `expandTabs`: a line with its tabs filled up to every eighth cell;
* `wrap`: the lines that a line is broken into;
* `laidOut`: all of it.
-/
import ApiBook.Text.Emoji
import ApiBook.Text.Width

namespace ApiBook.Report

/-- The cells of a line. -/
def lineWidth : Nat := 1000

/-- The cells from one tab stop to the next. -/
def tabWidth : Nat := 8

/-- Characters that move the cursor or ring a bell, and are not
shown. -/
def isCursorControl (c : Code) : Bool :=
  c.toNat = 7 || c.toNat = 8 || c.toNat = 11 || c.toNat = 12
    || c.toNat = 13

/-! ### Tabs -/

/-- The pieces of a line between its tabs, `column` cells into it, with
the tabs filled up. A tab takes one cell at least. -/
def fillTabs (column : Nat) : List (List Code) → List Code
  | [] => []
  | [last] => last
  | piece :: rest =>
    let piece := piece ++ [.char ' ']
    let stop := column + Text.width piece
    let fill := (tabWidth - stop % tabWidth) % tabWidth
    piece ++ List.replicate fill (.char ' ') ++ fillTabs (stop + fill) rest

/-- A line with its tabs filled up with spaces. -/
def expandTabs (line : List Code) : List Code :=
  fillTabs 0 (Text.split (.char '\t') line)

/-! ### Words and parts of words -/

/-- How far the word has come that is open. -/
inductive WordState where
  | blank
  | begun
  | ended
  deriving DecidableEq, Repr

/-- The words of the rest of a line, `word` being the one that is open,
its last character first. -/
def wordsFrom (word : List Code) (state : WordState) :
    List Code → List (List Code)
  | [] => if word.isEmpty then [] else [word.reverse]
  | c :: cs =>
    if c.meets Text.isSpacing then
      wordsFrom (c :: word) (if state = .blank then .blank else .ended) cs
    else if state = .ended then word.reverse :: wordsFrom [c] .begun cs
    else wordsFrom (c :: word) .begun cs

/-- The words of a line, each with the blanks after it, and the first
one with those before it. -/
def lineWords (line : List Code) : List (List Code) :=
  wordsFrom [] .blank line

/-- A word without the blanks after it. -/
def trimEnd (word : List Code) : List Code :=
  (word.reverse.dropWhile (·.meets Text.isSpacing)).reverse

/-- Clusters on lines of their own, `line` being the one that is open,
its last character first, and `column` its cells. -/
def foldClusters (line : List Code) (column : Nat) :
    List Text.Cluster → List (List Code)
  | [] => [line.reverse]
  | k :: ks =>
    if lineWidth < column + k.width then
      line.reverse :: foldClusters k.codes.reverse k.width ks
    else foldClusters (k.codes.reverse ++ line) (column + k.width) ks

/-- A word that is longer than a line, torn into parts that are not. -/
def foldWord (word : List Code) : List (List Code) :=
  foldClusters [] 0 (Text.clusters word)

/-! ### Lines -/

/-- The lines of words, `line` being the one that is open and `column`
its cells. A word that does not fit in what is left of a line begins a
new one; the blanks after it may stand out. -/
def wrapWords (line : List Code) (column : Nat) :
    List (List Code) → List (List Code)
  | [] => [line]
  | word :: rest =>
    let size := Text.width (trimEnd word)
    if column + size ≤ lineWidth then
      wrapWords (line ++ word) (column + Text.width word) rest
    else
      let parts := if lineWidth < size then foldWord word else [word]
      let last := parts.getLast?.getD []
      (if line.isEmpty then [] else [line]) ++ parts.dropLast
        ++ wrapWords last (Text.width last) rest

/-- The clusters that fit into what is left of a line, and a space in
place of the one that stands out by a part of it. -/
def takeWidth (column : Nat) : List Text.Cluster → List Code
  | [] => []
  | k :: ks =>
    if column + k.width ≤ lineWidth then
      k.codes ++ takeWidth (column + k.width) ks
    else if column < lineWidth then [.char ' ']
    else []

/-- A line without what stands out: blanks at its end, as many as there
are characters too many, and whatever takes a cell too many. -/
def fit (line : List Code) : List Code :=
  let blanks := (line.reverse.takeWhile (·.meets Text.isSpacing)).length
  let line :=
    line.take (line.length - min blanks (line.length - lineWidth))
  if Text.width line ≤ lineWidth then line
  else takeWidth 0 (Text.clusters line)

/-- The lines that a line is broken into. -/
def wrap (line : List Code) : List (List Code) :=
  (wrapWords [] 0 (lineWords line)).map fit

/-- A text as it is laid out. -/
def laidOut (text : Text) : Text :=
  let cs := (Text.withEmoji text.toList).filter (!isCursorControl ·)
  let lines := (Text.split (.char '\n') cs).flatMap fun line =>
    wrap (if line.contains (.char '\t') then expandTabs line else line)
  Text.join "\n" (lines.map .ofList)

end ApiBook.Report
