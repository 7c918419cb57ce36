/-
Documentation records: a document is a list of definitions, a definition
holds the places that establish its name, and a place holds refinements
of its type.

* `Span`: a range of offsets that does not end before it starts;
* `Definition`, with `Define`, `Field`, `Extend`, `Argument` and
  `Return` inside it;
* `Definition.location?`: the file and offset that a definition is
  listed under.
-/
import ApiBook.Record.Kind

namespace ApiBook.Record

/-- A range of offsets in a source file. -/
structure Span where
  start : Nat
  finish : Nat
  ordered : start ≤ finish
  deriving DecidableEq

/-- A parameter of a function; one that takes all further values has no
name. -/
structure Argument where
  span : Span
  name : Option Text
  kind : Kind
  view : Text
  description : Option Text
  rawDescription : Option Text
  deriving DecidableEq

/-- A value that a function returns. -/
structure Return where
  name : Option Text
  kind : Kind
  view : Text
  description : Option Text
  rawDescription : Option Text
  deriving DecidableEq

/-- Refined type information for a place, with the text that shows it.
Functions have lists of arguments and results, which may be empty. -/
structure Extend where
  span : Span
  kind : Kind
  view : Text
  description : Option Text
  rawDescription : Option Text
  args : Option (List Argument)
  returns : Option (List Return)
  deriving DecidableEq

/-- A place in a source file that contributes to a definition. -/
structure Define where
  span : Span
  kind : Kind
  file : Text
  refinements : List Extend
  deriving DecidableEq

/-- A member of a class or table. -/
structure Field where
  span : Span
  name : Text
  kind : Kind
  file : Text
  description : Option Text
  rawDescription : Option Text
  visible : Option Text
  refinements : List Extend
  deriving DecidableEq

/-- A documented name and the places that establish it. -/
structure Definition where
  name : Text
  kind : Kind
  description : Option Text
  rawDescription : Option Text
  defines : List Define
  fields : List Field
  deriving DecidableEq

namespace Definition

/-- The place that decides where a definition is documented: the first
one. -/
def primary? (d : Definition) : Option Define := d.defines.head?

/-- File and offset of the place that decides. -/
def location? (d : Definition) : Option (Text × Nat) :=
  d.primary?.map fun p => (p.file, p.span.start)

end Definition

end ApiBook.Record
