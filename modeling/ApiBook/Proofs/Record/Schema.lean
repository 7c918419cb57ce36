/-
What makes a value a document, and which definitions it then holds.

* `CountsAs`: values that count as whole numbers;
* `OrNull`, `ListOf`, `OneOrMany`, `ObjectOf`: forms of values;
* `Key.Finds`, `Key.Lacks`: what an object has under the two spellings of
  a part;
* `Has`, `May`: parts that have to be there, and parts that may be left
  out;
* `ArgumentOf`, `ReturnOf`, `ExtendOf`, `DefineOf`, `FieldOf`,
  `DefinitionOf`, `DocumentOf`: what makes a value a record of each sort,
  and which record it holds.
-/
import ApiBook.Record.Decode
import Mathlib.Data.Int.Notation
import Mathlib.Data.List.Forall2
import Mathlib.Data.Nat.Notation

namespace ApiBook.Record

variable {α : Type}

/-! ### Forms of values -/

/-- A value counts as a whole number: a number itself, a truth value as
one or zero, a floating-point number that is whole and within 64 bits, and
a text by its loose writing. -/
inductive CountsAs : Value → ℤ → Prop
  | whole (i : ℤ) : CountsAs (.int i) i
  | truth : CountsAs (.bool true) 1
  | falsity : CountsAs (.bool false) 0
  | float {x : Binary64} {i : ℤ} :
      x.toInt? = some i → i.natAbs < wordLimit → CountsAs (.float x) i
  | text {cs : List Char} {i : ℤ} :
      Number.looseWhole cs = .ok i → CountsAs (.text (.ofChars cs)) i

/-- A value counts as an offset: a whole number that is not negative. -/
def OffsetOf (v : Value) (n : ℕ) : Prop := CountsAs v n

/-- A value is a text. -/
def TextOf (v : Value) (s : Text) : Prop := v = .text s

/-- A value spells a kind. -/
def KindOf (v : Value) (k : Kind) : Prop := v = .text k.spelling

/-- Null for nothing, or a value of a form. -/
inductive OrNull (R : Value → α → Prop) : Value → Option α → Prop
  | null : OrNull R .null none
  | given {v : Value} {a : α} : R v a → OrNull R v (some a)

/-- A list, each item of a form. -/
def ListOf (R : Value → α → Prop) (v : Value) (as : List α) : Prop :=
  ∃ vs, v = .list vs ∧ List.Forall₂ R vs as

/-- Objects of a form: null for none, an object for itself alone, or a
list of them. -/
inductive OneOrMany (R : Value → α → Prop) : Value → List α → Prop
  | null : OneOrMany R .null []
  | one {ms : Members} {a : α} :
      R (.object ms) a → OneOrMany R (.object ms) [a]
  | many {vs : List Value} {as : List α} :
      List.Forall₂ R vs as → OneOrMany R (.list vs) as

/-- An object with members of a form. -/
def ObjectOf (R : Members → α → Prop) (v : Value) (a : α) : Prop :=
  ∃ ms, v = .object ms ∧ R ms a

/-! ### Parts of objects -/

/-- A part has a value in an object: the one under the document spelling,
or, where there is none, the one under the long name. -/
def Key.Finds (k : Key) (ms : Members) (v : Value) : Prop :=
  ms.get? k.exported = some v ∨
    ms.get? k.exported = none ∧ ms.get? k.long = some v

/-- A part is in an object under neither spelling. -/
def Key.Lacks (k : Key) (ms : Members) : Prop :=
  ms.get? k.exported = none ∧ ms.get? k.long = none

/-- A part that has to be there, with a value of a form. -/
def Has (k : Key) (R : Value → α → Prop) (ms : Members) (a : α) : Prop :=
  ∃ v, k.Finds ms v ∧ R v a

/-- A part that may be left out, and then stands for `absent`. -/
def May (k : Key) (absent : α) (R : Value → α → Prop) (ms : Members)
    (a : α) : Prop :=
  k.Lacks ms ∧ a = absent ∨ Has k R ms a

/-- A text that may be left out, or be null. -/
def MayText (k : Key) : Members → Option Text → Prop :=
  May k none (OrNull TextOf)

/-- Two offsets, the first of which is not above the second. -/
def SpanOf (ms : Members) (s : Span) : Prop :=
  ∃ start finish, ∃ h : start ≤ finish,
    Has .start OffsetOf ms start ∧ Has .finish OffsetOf ms finish ∧
      s = ⟨start, finish, h⟩

/-! ### Records -/

/-- What makes an object a function parameter. -/
structure ArgumentOf (ms : Members) (a : Argument) : Prop where
  span : SpanOf ms a.span
  name : MayText .name ms a.name
  kind : Has .kind KindOf ms a.kind
  view : Has .view TextOf ms a.view
  description : MayText .description ms a.description
  rawDescription : MayText .rawDescription ms a.rawDescription

/-- What makes an object a function result. -/
structure ReturnOf (ms : Members) (r : Return) : Prop where
  name : MayText .name ms r.name
  kind : Has .kind KindOf ms r.kind
  view : Has .view TextOf ms r.view
  description : MayText .description ms r.description
  rawDescription : MayText .rawDescription ms r.rawDescription

/-- What makes an object a refinement. -/
structure ExtendOf (ms : Members) (e : Extend) : Prop where
  span : SpanOf ms e.span
  kind : Has .kind KindOf ms e.kind
  view : Has .view TextOf ms e.view
  description : MayText .description ms e.description
  rawDescription : MayText .rawDescription ms e.rawDescription
  args : May .args none (OrNull (ListOf (ObjectOf ArgumentOf))) ms e.args
  returns :
    May .returns none (OrNull (ListOf (ObjectOf ReturnOf))) ms e.returns

/-- What makes an object a place of a definition. -/
structure DefineOf (ms : Members) (d : Define) : Prop where
  span : SpanOf ms d.span
  kind : Has .kind KindOf ms d.kind
  file : Has .file TextOf ms d.file
  refinements :
    May .refinements [] (OneOrMany (ObjectOf ExtendOf)) ms d.refinements

/-- What makes an object a member of a class or table. -/
structure FieldOf (ms : Members) (f : Field) : Prop where
  span : SpanOf ms f.span
  name : Has .name TextOf ms f.name
  kind : Has .kind KindOf ms f.kind
  file : Has .file TextOf ms f.file
  description : MayText .description ms f.description
  rawDescription : MayText .rawDescription ms f.rawDescription
  visible : MayText .visible ms f.visible
  refinements :
    May .refinements [] (OneOrMany (ObjectOf ExtendOf)) ms f.refinements

/-- What makes an object a definition. -/
structure DefinitionOf (ms : Members) (d : Definition) : Prop where
  name : Has .name TextOf ms d.name
  kind : Has .kind KindOf ms d.kind
  description : MayText .description ms d.description
  rawDescription : MayText .rawDescription ms d.rawDescription
  defines : May .defines [] (ListOf (ObjectOf DefineOf)) ms d.defines
  fields : May .fields [] (ListOf (ObjectOf FieldOf)) ms d.fields

/-- What makes a value a document: it is a list of definitions. -/
def DocumentOf : Value → List Definition → Prop :=
  ListOf (ObjectOf DefinitionOf)

end ApiBook.Record
