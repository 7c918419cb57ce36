/-
Whole numbers in loose writing, as documents and arguments hold them:
with blanks around them, a plus sign, zeros at the head, underscores
between digits, and a fraction of zeros.

* `strictWhole`: a number in strict writing;
* `cleaned?`: a loose writing brought nearer to the strict one;
* `looseWhole`: the number that a text stands for in either writing.
-/
import ApiBook.Number.Decimal
import ApiBook.Text.Pieces

namespace ApiBook.Number

/-- Why a text is no whole number. -/
inductive LooseFault where
  | notWhole
  | tooLong
  deriving DecidableEq, Repr

/-! ### Strict writing -/

/-- The greatest number of characters of a number in strict writing. -/
def strictLimit : Nat := 4300

/-- A digit that a number other than zero starts with. -/
def isFirstDigit (c : Char) : Bool := c.isDigit && c != '0'

/-- A minus sign, which may be missing, and what follows it. -/
def takeMinus : List Char → Bool × List Char
  | '-' :: cs => (true, cs)
  | cs => (false, cs)

/-- The magnitude of a number in strict writing: a single zero, or digits
of which the first is not zero. `signs` is the number of characters
before it. -/
def strictMagnitude (signs : Nat) (cs : List Char) :
    Except LooseFault Nat :=
  if cs = ['0'] then .ok 0
  else if !cs.head?.any isFirstDigit then .error .notWhole
  else
    let digits := cs.takeWhile Char.isDigit
    if strictLimit < signs + digits.length then .error .tooLong
    else if digits.length < cs.length then .error .notWhole
    else .ok (Decimal.toNat digits)

/-- A number in strict writing, with a minus sign if it is negative. -/
def strictWhole (cs : List Char) : Except LooseFault Int :=
  match takeMinus cs with
  | (true, ds) => (strictMagnitude 1 ds).map fun n => -(n : Int)
  | (false, ds) => (strictMagnitude 0 ds).map fun n => (n : Int)

/-! ### Loose writing -/

/-- What is left after zeros and underscores, of which `last` is the one
before. Where nothing is left, the last one stands for the number. -/
def afterZeros? (last : Char) : List Char → Option (List Char)
  | [] => some [last]
  | c :: cs =>
    if c = '0' || c = '_' then afterZeros? c cs
    else if isFirstDigit c || c = '-' then some (c :: cs)
    else if c = '.' then some (last :: c :: cs)
    else none

/-- A text without the zeros at its head. -/
def dropZeros? : List Char → Option (List Char)
  | [] => none
  | c :: cs =>
    if c = '0' then afterZeros? c cs
    else if isFirstDigit c || c = '-' then some (c :: cs)
    else none

/-- A text without a fraction; there may be none but zeros. -/
def dropFraction? (cs : List Char) : Option (List Char) :=
  match Text.breakAt? '.' cs with
  | none => some cs
  | some (before, zeros) =>
    if !zeros.isEmpty && zeros.all (· == '0') then some before else none

/-- Whether two underscores stand side by side. -/
def hasDoubleUnderscore : List Char → Bool
  | '_' :: '_' :: _ => true
  | _ :: cs => hasDoubleUnderscore cs
  | [] => false

/-- A text without its underscores, each of which has to stand alone
between two other characters. -/
def dropUnderscores? (cs : List Char) : Option (List Char) :=
  if cs.head? = some '_' || cs.getLast? = some '_'
      || hasDoubleUnderscore cs then none
  else some (cs.filter (· != '_'))

/-- A text without the plus sign at its head; no other sign may follow
it. -/
def dropPlus? : List Char → Option (List Char)
  | '+' :: '-' :: _ => none
  | '+' :: cs => some cs
  | cs => some cs

/-- A loose writing brought nearer to the strict one. Underscores that
cannot be left out stay, if there was anything else to clean. -/
def cleaned? (cs : List Char) : Option (List Char) := do
  let (negative, body) := takeMinus (← dropPlus? (Text.trim Text.isBlank cs))
  let body ← dropFraction? (← dropZeros? body)
  let body ← match dropUnderscores? body with
    | some digits => some digits
    | none => if body.length < cs.length then some body else none
  return if negative then '-' :: body else body

/-- The whole number that a text stands for. Only in strict writing is a
number that is too long told from a text that is no number. -/
def looseWhole (cs : List Char) : Except LooseFault Int :=
  match strictWhole cs with
  | .error .notWhole =>
    match (cleaned? cs).map strictWhole with
    | some (.ok i) => .ok i
    | _ => .error .notWhole
  | r => r

end ApiBook.Number
