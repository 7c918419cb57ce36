/-
The tokens of a YAML text, and what may be wrong with it.

* `Fault`: why a text has no value; most causes are one, as nothing more
  is said of a text that is no YAML;
* `Fault.message?`: the wording of the others, where they have one;
* `Token`: the marks of structure, and scalars with their text; a place
  that cannot be read is the last token.
-/
import ApiBook.Calendar.Moment
import ApiBook.Number.Typed

namespace ApiBook.Yaml

/-! ### Faults -/

/-- Why a text has no value. -/
inductive Fault where
  /-- The text is no YAML, or says nothing that can be understood. -/
  | malformed
  /-- Collections are nested too deeply. -/
  | tooDeep
  /-- An escape gives a code that no character has. -/
  | noCharacter
  /-- A number is too great to be worked with. -/
  | tooGreat
  /-- A number has no digits at all. -/
  | noDigits
  /-- The digits of a number cannot be read. -/
  | number (f : Number.TypedFault)
  /-- A word stands for no truth value. -/
  | unknownWord
  /-- A text does not have the form of a day or a moment. -/
  | noMoment
  /-- A day or a moment is asked for where there is no text at all. -/
  | noText
  /-- There is no such day or moment. -/
  | calendar (f : Calendar.Fault)
  deriving DecidableEq, Repr

/-- The wording of a fault. -/
def Fault.message? : Fault → Option String
  | noCharacter => some "chr() arg not in range(0x110000)"
  | number f => some f.message
  | calendar f => some f.message
  | _ => none

/-- What is there, or else the fault that says no more than that. -/
def orMalformed {α : Type} : Option α → Except Fault α
  | some a => .ok a
  | none => .error .malformed

/-! ### Tokens -/

/-- What a line that starts with a percent sign says. -/
inductive Directive where
  | version (major : Nat)
  | handle (handle target : String)
  | other
  deriving DecidableEq, Repr

/-- A token. -/
inductive Token where
  | directive (d : Directive)
  | documentStart
  | documentEnd
  | streamEnd
  | blockSequenceStart
  | blockMappingStart
  | blockEnd
  | flowSequenceStart
  | flowSequenceEnd
  | flowMappingStart
  | flowMappingEnd
  | blockEntry
  | flowEntry
  | key
  | value
  | alias (name : String)
  | anchor (name : String)
  | tag (handle : Option String) (suffix : String)
  | scalar (text : Text) (plain : Bool)
  | unreadable (f : Fault)
  deriving DecidableEq, Repr

end ApiBook.Yaml
