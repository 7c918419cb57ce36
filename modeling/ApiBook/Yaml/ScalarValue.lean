/-
The values of scalars, once their types are known.

* `wholeNumber`, `floatNumber`: numbers, in several bases and in groups of
  sixty;
* `scalarOf`: the value of a scalar of a type.
-/
import ApiBook.Text.Digit
import ApiBook.Text.Lowercase
import ApiBook.Yaml.PlainType

namespace ApiBook.Yaml

/-- A number read as people type it, or the fault. -/
def typed {α : Type} (r : Except Number.TypedFault α) : Except Fault α :=
  match r with
  | .ok a => .ok a
  | .error f => .error (.number f)

/-- A text without the sign at its head, and whether the sign was a
minus. There has to be a character. -/
def splitSign (cs : List Code) : Except Fault (Bool × List Code) :=
  match cs with
  | [] => .error .noDigits
  | c :: ds =>
    if c = .char '-' then .ok (true, ds)
    else if c = .char '+' then .ok (false, ds)
    else .ok (false, cs)

/-- A text without underscores. -/
def withoutUnderscores (s : Text) : List Code :=
  s.toList.filter (· != .char '_')

/-! ### Whole numbers -/

/-- A whole number in a base. -/
def wholeIn (base : Nat) (cs : List Code) : Except Fault Int :=
  typed (Number.wholeOfTyped base (.ofList cs))

/-- The number that groups of sixty stand for. -/
def sixtieths (parts : List (List Code)) : Except Fault Int := do
  let ns ← parts.mapM (wholeIn 10)
  return ns.foldl (fun acc n => 60 * acc + n) 0

/-- The whole number that a text stands for, without its sign. A zero at
the head marks another base than ten. -/
def wholeMagnitude (cs : List Code) : Except Fault Int :=
  match cs with
  | [] => .error .noDigits
  | [.char '0'] => .ok 0
  | .char '0' :: .char 'b' :: ds => wholeIn 2 ds
  | .char '0' :: .char 'x' :: ds => wholeIn 16 ds
  | .char '0' :: _ => wholeIn 8 cs
  | cs =>
    if cs.contains (.char ':') then sixtieths (Text.split (.char ':') cs)
    else wholeIn 10 cs

/-- The whole number that a scalar stands for. -/
def wholeNumber (s : Text) : Except Fault Int := do
  let (negative, cs) ← splitSign (withoutUnderscores s)
  let n ← wholeMagnitude cs
  return if negative then -n else n

/-! ### Numbers with a point -/

/-- A number with a point. -/
def floatIn (cs : List Code) : Except Fault Binary64 :=
  typed (Number.floatOfTyped (.ofList cs))

/-- The sum of groups of sixty, the last one first; every step is
rounded. `base` is what the next group counts. -/
def sumSixtieths (acc : Binary64) (base : Nat) :
    List Binary64 → Except Fault Binary64
  | [] => .ok acc
  | x :: xs =>
    let factor := Binary64.ofInt base
    if factor.isFinite then sumSixtieths (acc.add (x.mul factor)) (base * 60) xs
    else .error .tooGreat

/-- The magnitude of a number with a point. -/
def floatMagnitude (cs : List Code) : Except Fault Binary64 :=
  if Text.ofList cs = ".inf" then .ok (.infinite false)
  else if Text.ofList cs = ".nan" then .ok .nan
  else if cs.contains (.char ':') then do
    let xs ← (Text.split (.char ':') cs).mapM floatIn
    sumSixtieths (.zero false) 1 xs.reverse
  else floatIn cs

/-- The number with a point that a scalar stands for. -/
def floatNumber (s : Text) : Except Fault Binary64 := do
  let word := Text.lowerCodes [] (withoutUnderscores s)
  let (negative, cs) ← splitSign word
  let x ← floatMagnitude cs
  return if negative then x.neg else x

/-! ### Other scalars -/

/-- What a text without surrogates is read as; with surrogates there is
nothing. -/
def ofString {α : Type} (read : String → Except Fault α) (missing : Fault)
    (s : Text) : Except Fault α :=
  match s.chars? with
  | some cs => read (String.ofList cs)
  | none => .error missing

/-- The truth value that a word stands for, in any case. -/
def truthValue (s : String) : Except Fault Bool :=
  match boolWords.lookup (Text.lowercase s) with
  | some b => .ok b
  | none => .error .unknownWord

/-- The bytes that letters stand for, all of them ASCII. -/
def bytesOf (s : String) : Except Fault (List UInt8) :=
  if s.toList.all (·.toNat < 0x80) then
    orMalformed (Text.decodeBase64? s.toList)
  else .error .malformed

/-- The day or the moment that a text stands for. -/
def momentOf (s : String) : Except Fault Scalar :=
  match momentForm? (withoutLineFeed s).toList with
  | none => .error .noMoment
  | some f =>
    match f.scalar with
    | .ok m => .ok m
    | .error e => .error (.calendar e)

/-- The value of a scalar of a type. -/
def scalarOf (type : ScalarType) (s : Text) : Except Fault Scalar :=
  match type with
  | .null => .ok .null
  | .bool => (ofString truthValue .unknownWord s).map .bool
  | .whole => (wholeNumber s).map fun i => .number (.whole i)
  | .float => (floatNumber s).map fun x => .number (.float x)
  | .bytes => (ofString bytesOf .malformed s).map .bytes
  | .moment => ofString momentOf .noMoment s
  | .text => .ok (.text s)
  | .merge => .error .malformed
  | .default => .error .malformed
  | .mark => .error .malformed

end ApiBook.Yaml
