/-
Reading values as documentation records.

* `objectList`: the one rule for parts that hold no object, one, or
  many;
* `readOffset`: a value as a whole number that is not negative, in any of
  the forms that a document may give it;
* `readDefinition`: a value as a definition, or every way in which it
  does not fit, depth first in the order of the parts;
* `readDefinitions`: a list of definitions, all or nothing.
-/
import ApiBook.Record.Basic
import ApiBook.Record.Key
import ApiBook.Number.Loose
import ApiBook.Record.Violation
import ApiBook.Value.Display

namespace ApiBook.Record

/-! ### Parts -/

/-- What the type of a plain value is called in messages. -/
def plainTypeName : Value → String
  | .text _ => "str"
  | .bool _ => "bool"
  | .number (.whole _) => "int"
  | .number (.float _) => "float"
  | .null => "NoneType"
  | .list _ => "list"
  | .object _ => "dict"

/-- A list of objects in any of its forms: nothing for none, an object
for itself alone, or a list. -/
def objectList : Value → Except Cause (List Value)
  | .null => .ok []
  | .object ms => .ok [.object ms]
  | .list vs => .ok vs
  | v => .error (.notObjects (plainTypeName v))

/-- A text. -/
def readText : Value → Checked Text
  | .text s => .valid s
  | _ => .fail .notText

/-- A text, or nothing. -/
def readText? : Value → Checked (Option Text)
  | .null => .valid none
  | v => some <$> readText v

/-- The kind that a value spells. -/
def kindOf? : Value → Option Kind
  | .text s => Kind.ofSpelling? s
  | _ => none

/-- What a value that spells no kind is told. -/
def unknownKindText (v : Value) : String :=
  v.literal ++ " is not a valid DefinitionType"

/-- A kind by its spelling. A text with surrogates is not looked up at
all. -/
def readKind (v : Value) : Checked Kind :=
  match kindOf? v, v with
  | some k, _ => .valid k
  | none, .text s => .fail (if s.isPlain then .notKind else .notUnicode)
  | none, _ => .fail .notKind

/-! ### Offsets -/

/-- The first number that takes more than 63 bits. -/
def wordLimit : Nat := 9223372036854775808

/-- A value as a whole number. Floating-point numbers have to be whole
and within 64 bits, and texts have to be without surrogates. -/
def readInteger : Value → Checked Int
  | .number (.whole i) => .valid i
  | .bool b => .valid (if b then 1 else 0)
  | .number (.float x) =>
    if !x.isFinite then .fail .notFinite
    else match x.toInt? with
      | none => .fail .fractional
      | some i =>
        if i.natAbs < wordLimit then .valid i else .fail .tooLarge
  | .text s =>
    match s.chars? with
    | none => .fail .notUnicode
    | some cs =>
      match Number.looseWhole cs with
      | .ok i => .valid i
      | .error .tooLong => .fail .tooLarge
      | .error .notWhole => .fail .notIntegerText
  | _ => .fail .notInteger

/-- A whole number as an offset. -/
def toOffset (i : Int) : Checked Nat :=
  if 0 ≤ i then .valid i.toNat else .fail .negative

/-- A value as an offset. -/
def readOffset (v : Value) : Checked Nat :=
  (toOffset <$> readInteger v).join

/-! ### Parts of records -/

/-- A list, each item of one form. -/
def readList {α : Type} (read : Value → Checked α) :
    Value → Checked (List α)
  | .list vs => .items read vs
  | _ => .fail .notList

/-- A list, or nothing. -/
def readList? {α : Type} (read : Value → Checked α) :
    Value → Checked (Option (List α))
  | .null => .valid none
  | v => some <$> readList read v

/-- A list of objects in any of its forms, each of one form. -/
def readObjects {α : Type} (read : Value → Checked α) (v : Value) :
    Checked (List α) :=
  match objectList v with
  | .ok vs => .items read vs
  | .error c => .fail c

/-- A part that has to be there. -/
def required {α : Type} (k : Key) (read : Value → Checked α)
    (ms : Members) : Checked α :=
  match k.find? ms with
  | some (spelling, v) => (read v).under (.member spelling)
  | none => (Checked.fail .missing).under (.member k.exported)

/-- A part that may be left out. -/
def optional {α : Type} (k : Key) (absent : α)
    (read : Value → Checked α) (ms : Members) : Checked α :=
  match k.find? ms with
  | some (spelling, v) => (read v).under (.member spelling)
  | none => .valid absent

/-- A record is an object. -/
def readRecord {α : Type} (record : String)
    (read : Members → Checked α) : Value → Checked α
  | .object ms => read ms
  | _ => .fail (.notRecord record)

/-- The last check of a record with a span, made when all parts fit. -/
def spanned {α : Type} (start finish : Nat) (make : Span → α) :
    Checked α :=
  if h : start ≤ finish then .valid (make ⟨start, finish, h⟩)
  else .fail (.reversed start finish)

/-! ### Records -/

/-- A function parameter. -/
def readArgument : Value → Checked Argument :=
  readRecord "FuncArg" fun ms => Checked.join <|
    (fun start finish name kind view description raw =>
      spanned start finish fun span =>
        Argument.mk span name kind view description raw)
    <$> required .start readOffset ms
    <*> required .finish readOffset ms
    <*> optional .name none readText? ms
    <*> required .kind readKind ms
    <*> required .view readText ms
    <*> optional .description none readText? ms
    <*> optional .rawDescription none readText? ms

/-- A function result. -/
def readReturn : Value → Checked Return :=
  readRecord "FuncReturn" fun ms =>
    Return.mk
    <$> optional .name none readText? ms
    <*> required .kind readKind ms
    <*> required .view readText ms
    <*> optional .description none readText? ms
    <*> optional .rawDescription none readText? ms

/-- A refinement. -/
def readExtend : Value → Checked Extend :=
  readRecord "Extend" fun ms => Checked.join <|
    (fun start finish kind view description raw args returns =>
      spanned start finish fun span =>
        Extend.mk span kind view description raw args returns)
    <$> required .start readOffset ms
    <*> required .finish readOffset ms
    <*> required .kind readKind ms
    <*> required .view readText ms
    <*> optional .description none readText? ms
    <*> optional .rawDescription none readText? ms
    <*> optional .args none (readList? readArgument) ms
    <*> optional .returns none (readList? readReturn) ms

/-- A place of a definition. -/
def readDefine : Value → Checked Define :=
  readRecord "Define" fun ms => Checked.join <|
    (fun start finish kind file refinements =>
      spanned start finish fun span =>
        Define.mk span kind file refinements)
    <$> required .start readOffset ms
    <*> required .finish readOffset ms
    <*> required .kind readKind ms
    <*> required .file readText ms
    <*> optional .refinements [] (readObjects readExtend) ms

/-- A member of a class or table. -/
def readField : Value → Checked Field :=
  readRecord "DocField" fun ms => Checked.join <|
    (fun start finish name kind file description raw visible
        refinements =>
      spanned start finish fun span =>
        Field.mk span name kind file description raw visible refinements)
    <$> required .start readOffset ms
    <*> required .finish readOffset ms
    <*> required .name readText ms
    <*> required .kind readKind ms
    <*> required .file readText ms
    <*> optional .description none readText? ms
    <*> optional .rawDescription none readText? ms
    <*> optional .visible none readText? ms
    <*> optional .refinements [] (readObjects readExtend) ms

/-- A definition. -/
def readDefinition : Value → Checked Definition :=
  readRecord "Definition" fun ms =>
    Definition.mk
    <$> required .name readText ms
    <*> required .kind readKind ms
    <*> optional .description none readText? ms
    <*> optional .rawDescription none readText? ms
    <*> optional .defines [] (readList readDefine) ms
    <*> optional .fields [] (readList readField) ms

/-- A list of definitions. -/
def readDefinitions : Value → Checked (List Definition) :=
  readList readDefinition

end ApiBook.Record
