/-
What a value does not have that a record needs, and where in the value.

* `Cause`: the ways not to fit, each with a code and a message;
* `Violation`: a cause under a path of indexes and member names;
* `Checked`: a record, or every violation found, gathered from the parts
  in order.
-/
import ApiBook.Number.Decimal
import ApiBook.Record.Kind
import ApiBook.Value.Basic

namespace ApiBook.Record

/-! ### Causes -/

/-- Why a value does not fit. -/
inductive Cause where
  | missing
  | notText
  | notUnicode
  | notKind
  | notList
  | notRecord (record : String)
  | notInteger
  | notIntegerText
  | fractional
  | notFinite
  | tooLarge
  | negative
  | reversed (start finish : Nat)
  | notObjects (found : String)
  deriving DecidableEq, Repr

namespace Cause

/-- The code of a cause. -/
def code : Cause → String
  | missing => "missing"
  | notText => "string_type"
  | notUnicode => "string_unicode"
  | notKind => "enum"
  | notList => "list_type"
  | notRecord _ => "model_type"
  | notInteger => "int_type"
  | notIntegerText => "int_parsing"
  | fractional => "int_from_float"
  | notFinite => "finite_number"
  | tooLarge => "int_parsing_size"
  | negative => "greater_than_equal"
  | reversed .. => "value_error"
  | notObjects _ => "value_error"

/-- What an offset that comes after the end of its span is told. -/
def reversedText (start finish : Nat) : String :=
  "start offset " ++ Decimal.text start ++ " is after finish offset "
    ++ Decimal.text finish

/-- What a value that is no list of objects is told. -/
def notObjectsText (found : String) : String :=
  "expected an object, an array of objects or null, got " ++ found

/-- The message of a cause. -/
def message : Cause → String
  | missing => "Field required"
  | notText => "Input should be a valid string"
  | notUnicode =>
    "Input should be a valid string, "
      ++ "unable to parse raw data as a unicode string"
  | notKind => "Input should be " ++ Kind.choices
  | notList => "Input should be a valid list"
  | notRecord record =>
    "Input should be a valid dictionary or instance of " ++ record
  | notInteger => "Input should be a valid integer"
  | notIntegerText =>
    "Input should be a valid integer, "
      ++ "unable to parse string as an integer"
  | fractional =>
    "Input should be a valid integer, "
      ++ "got a number with a fractional part"
  | notFinite => "Input should be a finite number"
  | tooLarge =>
    "Unable to parse input string as an integer, exceeded maximum size"
  | negative => "Input should be greater than or equal to 0"
  | reversed start finish =>
    "Value error, " ++ reversedText start finish
  | notObjects found => "Value error, " ++ notObjectsText found

end Cause

/-! ### Violations -/

/-- One step of the way into a value. -/
inductive Step where
  | index (i : Nat)
  | member (name : String)
  deriving DecidableEq, Repr

/-- A cause, and the way to the value at fault. -/
structure Violation where
  path : List Step
  cause : Cause
  deriving DecidableEq, Repr

namespace Violation

/-- A violation seen from one level further out. -/
def under (s : Step) (v : Violation) : Violation :=
  { v with path := s :: v.path }

end Violation

/-! ### Checked records -/

/-- A record, or all that is wrong with it. -/
inductive Checked (α : Type) where
  | valid (a : α)
  | invalid (violations : List Violation)

namespace Checked

/-- What is wrong with a value; nothing if it fits. -/
def violations {α : Type} : Checked α → List Violation
  | valid _ => []
  | invalid vs => vs

/-- The one violation at a value itself. -/
def fail {α : Type} (c : Cause) : Checked α := invalid [⟨[], c⟩]

/-- The outcome for a part, seen from the whole. -/
def under {α : Type} (s : Step) : Checked α → Checked α
  | valid a => valid a
  | invalid vs => invalid (vs.map (·.under s))

/-- Two outcomes together: the violations of both, in order. -/
def ap {α β : Type} : Checked (α → β) → Checked α → Checked β
  | valid f, valid a => valid (f a)
  | valid _, invalid vs => invalid vs
  | invalid vs, c => invalid (vs ++ c.violations)

/-- An outcome that itself holds a check, made when all else fits. -/
def join {α : Type} : Checked (Checked α) → Checked α
  | valid c => c
  | invalid vs => invalid vs

instance : Applicative Checked where
  pure := valid
  seq f x := f.ap (x ())

/-- The outcomes for the items of a list, numbered from `i`. -/
def itemsFrom {α : Type} (check : Value → Checked α) (i : Nat) :
    List Value → Checked (List α)
  | [] => valid []
  | v :: vs =>
    (· :: ·) <$> (check v).under (.index i) <*> itemsFrom check (i + 1) vs

/-- The outcomes for the items of a list. -/
def items {α : Type} (check : Value → Checked α) (vs : List Value) :
    Checked (List α) :=
  itemsFrom check 0 vs

end Checked

end ApiBook.Record
