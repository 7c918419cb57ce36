/-
Documents: lists of definitions, and single ones, as texts.

* `Subject`: what a text is meant to hold;
* `DecodeError`: why it does not hold it;
* `decode`, `decodeOne`: the definitions of a text;
* `decodeBytes?`, `decodeOneBytes?`: the same for bytes;
* `oneOfGiven`: a definition given as a text or as a value;
* `encode?`: a text of definitions, compact or indented.
-/
import ApiBook.Json.Parser
import ApiBook.Json.Printer
import ApiBook.Record.Decode
import ApiBook.Record.Encode

namespace ApiBook.Record

/-- What a text is meant to hold. -/
inductive Subject where
  | documentation
  | definition
  deriving DecidableEq, Repr

/-- Why a text does not hold what it is meant to. -/
inductive DecodeError where
  | malformed (subject : Subject) (text : Text) (fault : Json.Fault)
  | invalid (subject : Subject) (violations : List Violation)
  deriving DecidableEq, Repr

namespace DecodeError

/-- The first line of what a decoding error says; the violations are
listed below it. -/
def message : DecodeError → String
  | malformed .documentation text fault =>
    "Malformed documentation JSON: " ++ fault.message text
  | malformed .definition text fault =>
    "Malformed definition JSON: " ++ fault.message text
  | invalid subject violations =>
    "Invalid documentation record: " ++ Decimal.text violations.length
      ++ (if violations.length = 1 then " validation error"
        else " validation errors")
      ++ " for "
      ++ (match subject with
        | .documentation => "list[Definition]"
        | .definition => "Definition")

/-- The limit that a text breaks which may be a document for all
that. -/
def breach? : DecodeError → Option Json.Breach
  | malformed _ _ fault => fault.breach?
  | invalid .. => none

/-- The violations of a decoding error, if it has any. -/
def violations : DecodeError → List Violation
  | malformed .. => []
  | invalid _ vs => vs

end DecodeError

/-- A checked value as an outcome of decoding. -/
def Checked.outcome {α : Type} (subject : Subject) :
    Checked α → Except DecodeError α
  | .valid a => .ok a
  | .invalid vs => .error (.invalid subject vs)

/-- The definitions of a value. -/
def ofValue (v : Value) : Except DecodeError (List Definition) :=
  (readDefinitions v).outcome .documentation

/-- The definition that a value is. -/
def oneOfValue (v : Value) : Except DecodeError Definition :=
  (readDefinition v).outcome .definition

/-- The definitions of what was read from a text. -/
def ofParsed (text : Text) :
    Except Json.Fault Value → Except DecodeError (List Definition)
  | .ok v => ofValue v
  | .error f => .error (.malformed .documentation text f)

/-- The definition of what was read from a text. -/
def oneOfParsed (text : Text) :
    Except Json.Fault Value → Except DecodeError Definition
  | .ok v => oneOfValue v
  | .error f => .error (.malformed .definition text f)

/-- The definitions of a text, in which lists and objects may be nested
`depth` times. -/
def decode (depth : Nat) (text : Text) :
    Except DecodeError (List Definition) :=
  ofParsed text (Json.parse depth text)

/-- The definition that a text holds. -/
def decodeOne (depth : Nat) (text : Text) : Except DecodeError Definition :=
  oneOfParsed text (Json.parse depth text)

/-- The definitions of a text that came as bytes, where a byte order mark
has been taken away already. -/
def decodeBytes? (depth : Nat) (bs : List UInt8) :
    Option (Except DecodeError (List Definition)) :=
  (Json.decodeBytes? bs).map fun text =>
    ofParsed text (Json.parseBody depth text.toList)

/-- The definition that a text holds which came as bytes. -/
def decodeOneBytes? (depth : Nat) (bs : List UInt8) :
    Option (Except DecodeError Definition) :=
  (Json.decodeBytes? bs).map fun text =>
    oneOfParsed text (Json.parseBody depth text.toList)

/-- The definition that is given as a text, or as the value itself. -/
def oneOfGiven (depth : Nat) : Value → Except DecodeError Definition
  | .text s => decodeOne depth s
  | v => oneOfValue v

/-- A text of definitions in a style; there is none if a surrogate is in
one of their texts. -/
def encode? (style : Json.Style) (ds : List Definition) : Option String :=
  let v := Naming.exported.definitions ds
  if v.isPlain then some (Json.print style v) else none

/-- The style for a number of spaces to indent by: none for compact
text; there is no style for a negative number. -/
def style? : Option Int → Option Json.Style
  | none => some .compact
  | some i => if 0 ≤ i then some (.indented i.toNat) else none

end ApiBook.Record
