/-
Names of the parts of records: each part has the spelling that documents
use, and a long name.

* `Key`: the two spellings of a part;
* `Key.find?`: the part of an object, under the document spelling if
  that is there, under the long name if not.
-/
import ApiBook.Value.Basic

namespace ApiBook.Record

/-- The name of a part of a record. -/
structure Key where
  /-- The spelling in documents. -/
  exported : String
  /-- The long name. -/
  long : String
  deriving DecidableEq, Repr

namespace Key

/-- A part with one spelling only. -/
def same (s : String) : Key := ⟨s, s⟩

/-- The part of an object, with the spelling it was found under. -/
def find? (k : Key) (ms : Members) : Option (String × Value) :=
  match ms.get? k.exported with
  | some v => some (k.exported, v)
  | none => (ms.get? k.long).map fun v => (k.long, v)

/-! ### The parts -/

def name : Key := same "name"
def kind : Key := ⟨"type", "kind"⟩
def description : Key := ⟨"desc", "description"⟩
def rawDescription : Key := ⟨"rawdesc", "raw_description"⟩
def defines : Key := same "defines"
def fields : Key := same "fields"
def start : Key := same "start"
def finish : Key := same "finish"
def file : Key := same "file"
def refinements : Key := same "extends"
def visible : Key := same "visible"
def view : Key := same "view"
def args : Key := same "args"
def returns : Key := same "returns"

end Key

end ApiBook.Record
