/-
Documentation records as values.

* `Naming`: which spelling the parts get, and whether parts without a
  value are written;
* `Naming.exported`, `Naming.long`: the document format, and the long
  listing of every part;
* `Naming.definitions`: a list of definitions as a value.
-/
import ApiBook.Record.Basic
import ApiBook.Record.Key

namespace ApiBook.Record

/-- How the parts of records are written. -/
structure Naming where
  /-- The spelling of a part. -/
  spelling : Key → String
  /-- Whether parts without a value are written as null. -/
  keepsNull : Bool

namespace Naming

/-- The document format: parts without a value are left out. -/
def exported : Naming := ⟨Key.exported, false⟩

/-- Every part under its long name. -/
def long : Naming := ⟨Key.long, true⟩

/-- A part that always has a value. -/
def part (n : Naming) (k : Key) (v : Value) : Members :=
  [(n.spelling k, v)]

/-- A part that may have no value. -/
def part? (n : Naming) (k : Key) : Option Value → Members
  | some v => [(n.spelling k, v)]
  | none => if n.keepsNull then [(n.spelling k, .null)] else []

/-- A text part that may have no value. -/
def text? (n : Naming) (k : Key) (s : Option Text) : Members :=
  n.part? k (s.map .text)

/-- The two offsets of a span. -/
def span (n : Naming) (s : Span) : Members :=
  n.part .start (.int s.start) ++ n.part .finish (.int s.finish)

/-- A kind by its spelling. -/
def kind (n : Naming) (k : Kind) : Members :=
  n.part .kind (.text k.spelling)

/-- The two forms of a description. -/
def descriptions (n : Naming) (description raw : Option Text) :
    Members :=
  n.text? .description description ++ n.text? .rawDescription raw

/-! ### Records -/

/-- A function parameter. -/
def argument (n : Naming) (a : Argument) : Value :=
  .object (n.span a.span ++ n.text? .name a.name ++ n.kind a.kind
    ++ n.part .view (.text a.view)
    ++ n.descriptions a.description a.rawDescription)

/-- A function result. -/
def result (n : Naming) (r : Return) : Value :=
  .object (n.text? .name r.name ++ n.kind r.kind
    ++ n.part .view (.text r.view)
    ++ n.descriptions r.description r.rawDescription)

/-- A refinement. -/
def refinement (n : Naming) (e : Extend) : Value :=
  .object (n.span e.span ++ n.kind e.kind
    ++ n.part .view (.text e.view)
    ++ n.descriptions e.description e.rawDescription
    ++ n.part? .args (e.args.map fun as => .list (as.map n.argument))
    ++ n.part? .returns (e.returns.map fun rs => .list (rs.map n.result)))

/-- The refinements of a place or a member. -/
def refinements (n : Naming) (es : List Extend) : Members :=
  n.part .refinements (.list (es.map n.refinement))

/-- A place of a definition. -/
def define (n : Naming) (d : Define) : Value :=
  .object (n.span d.span ++ n.kind d.kind
    ++ n.part .file (.text d.file) ++ n.refinements d.refinements)

/-- A member of a class or table. -/
def field (n : Naming) (f : Field) : Value :=
  .object (n.span f.span ++ n.part .name (.text f.name) ++ n.kind f.kind
    ++ n.part .file (.text f.file)
    ++ n.descriptions f.description f.rawDescription
    ++ n.text? .visible f.visible ++ n.refinements f.refinements)

/-- A definition. -/
def definition (n : Naming) (d : Definition) : Value :=
  .object (n.part .name (.text d.name) ++ n.kind d.kind
    ++ n.descriptions d.description d.rawDescription
    ++ n.part .defines (.list (d.defines.map n.define))
    ++ n.part .fields (.list (d.fields.map n.field)))

/-- A list of definitions. -/
def definitions (n : Naming) (ds : List Definition) : Value :=
  .list (ds.map n.definition)

end Naming

end ApiBook.Record
