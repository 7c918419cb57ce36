/-
Options of the rendering: the level of headings, and the language that
code blocks are marked with.

* `Options`: a level from one to six, two if none is set, and a
  language;
* `Options.deeper`: the options one level down, six being the last;
* `Request.options`: options from values as a caller gives them.
-/
import ApiBook.Value.Display

namespace ApiBook.Markdown

/-- The last level of headings. -/
def maxLevel : Nat := 6

/-- No level is out of range where none is set. -/
theorem bounded_of_none :
    ∀ n ∈ (none : Option Nat), 1 ≤ n ∧ n ≤ maxLevel := by
  intro n h
  cases h

/-- How definitions are rendered. -/
structure Options where
  /-- The level of the headings, if one is set. -/
  heading : Option Nat := none
  /-- What code blocks are marked with. -/
  language : Text := "lua"
  bounded : ∀ n ∈ heading, 1 ≤ n ∧ n ≤ maxLevel := by
    exact ApiBook.Markdown.bounded_of_none
  deriving DecidableEq

namespace Options

instance : Inhabited Options := ⟨{}⟩

/-- The level of the headings. -/
def level (o : Options) : Nat := o.heading.getD 2

/-- Options with a level between one and six. -/
def ofLevel? (n : Nat) (language : Text) : Option Options :=
  if h : 1 ≤ n ∧ n ≤ maxLevel then
    some ⟨some n, language, by simpa using h⟩
  else none

end Options

/-- The level below a level; there is none below the last. -/
def deeper (level : Nat) : Nat := min (level + 1) maxLevel

/-! ### Options on request -/

/-- Why options cannot be had. -/
inductive OptionsFault where
  | outOfRange (level : Value)
  | notComparable

/-- The wording of a level that is out of range. -/
def outOfRangeText (level : Value) : Text :=
  "heading_level must be between 1 and " ++ Decimal.text maxLevel
    ++ ", got " ++ level.display

/-- Options as they are asked for: those that headings can be written
with, and those with a level between two levels, at which no heading can
be written. -/
inductive Request where
  | writable (o : Options)
  | unwritable

/-- Whether a number is a level or lies between two levels. -/
def inRange (n : Number) : Bool :=
  (Number.whole 1).le n && n.le (.whole maxLevel)

/-- The options for a level and a language given as values; null stands
for no level, and any value for the language it is displayed as. -/
def Request.ofValues (heading language : Value) :
    Except OptionsFault Request :=
  match heading with
  | .null => .ok (.writable { language := language.display })
  | heading =>
    match heading.toNumber? with
    | none => .error .notComparable
    | some n =>
      if inRange n then
        match n with
        | .whole i =>
          match Options.ofLevel? i.toNat language.display with
          | some o => .ok (.writable o)
          | none => .error (.outOfRange heading)
        | .float _ => .ok .unwritable
      else .error (.outOfRange heading)

end ApiBook.Markdown
