/-
The kinds of documented things: a closed set, each kind with the
spelling that documents use and a label for people.

* `Kind.spelling`, `Kind.ofSpelling?`: a kind in writing, and back;
* `Kind.ofSpelling?_spelling`: every kind is read back from its
  spelling.
-/
import ApiBook.Text.Basic

namespace ApiBook.Record

/-- What a definition, one of its places or a refinement is. -/
inductive Kind where
  | binary
  | boolean
  | docAlias
  | docClass
  | docEnum
  | docExtendsName
  | docField
  | docType
  | function
  | functionReturn
  | integer
  | localVariable
  | nilValue
  | number
  | selfReference
  | setField
  | setGlobal
  | setIndex
  | setMethod
  | string
  | table
  | tableField
  | typeName
  | variableName
  | varArg
  deriving DecidableEq, Repr

namespace Kind

/-- Every kind, in the order of the document format. -/
def all : List Kind := [
  .binary, .boolean, .docAlias, .docClass, .docEnum, .docExtendsName,
  .docField, .docType, .function, .functionReturn, .integer,
  .localVariable, .nilValue, .number, .selfReference, .setField,
  .setGlobal, .setIndex, .setMethod, .string, .table, .tableField,
  .typeName, .variableName, .varArg]

/-- The spelling of a kind in documents. -/
def spelling : Kind → String
  | binary => "binary"
  | boolean => "boolean"
  | docAlias => "doc.alias"
  | docClass => "doc.class"
  | docEnum => "doc.enum"
  | docExtendsName => "doc.extends.name"
  | docField => "doc.field"
  | docType => "doc.type"
  | function => "function"
  | functionReturn => "function.return"
  | integer => "integer"
  | localVariable => "local"
  | nilValue => "nil"
  | number => "number"
  | selfReference => "self"
  | setField => "setfield"
  | setGlobal => "setglobal"
  | setIndex => "setindex"
  | setMethod => "setmethod"
  | string => "string"
  | table => "table"
  | tableField => "tablefield"
  | typeName => "type"
  | variableName => "variable"
  | varArg => "..."

/-- The kind with a spelling. -/
def ofSpelling? (t : Text) : Option Kind :=
  all.find? fun k => Text.ofString k.spelling = t

/-- What a kind is called in prose. -/
def label : Kind → String
  | binary => "binary expression"
  | boolean => "boolean"
  | docAlias => "alias"
  | docClass => "class"
  | docEnum => "enum"
  | docExtendsName => "parent class"
  | docField => "field"
  | docType => "type annotation"
  | function => "function"
  | functionReturn => "function return"
  | integer => "integer"
  | localVariable => "local variable"
  | nilValue => "nil"
  | number => "number"
  | selfReference => "self"
  | setField => "field assignment"
  | setGlobal => "global assignment"
  | setIndex => "index assignment"
  | setMethod => "method"
  | string => "string"
  | table => "table"
  | tableField => "table field"
  | typeName => "type"
  | variableName => "variable"
  | varArg => "varargs"

/-- Whether refinements of this kind carry arguments and results. -/
def isFunction : Kind → Bool
  | function => true
  | setMethod => true
  | _ => false

/-- The spellings in quotes, as a choice. -/
def choices : String :=
  let quoted := all.map fun k => "'" ++ k.spelling ++ "'"
  ", ".intercalate quoted.dropLast ++ " or " ++ quoted.getLastD ""

/-- Every kind is read back from its spelling. -/
theorem ofSpelling?_spelling (k : Kind) :
    ofSpelling? k.spelling = some k := by
  simp only [ofSpelling?, Text.ofString_inj]
  cases k <;> decide

end Kind

end ApiBook.Record
