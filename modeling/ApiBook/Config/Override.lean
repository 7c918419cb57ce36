/-
Settings from environment variables.

* `Override.ofVariable?`: the setting that a variable stands for, its
  section and its key taken from the name;
* `typedValue`: the setting that a text stands for;
* `Config.override`: the configuration with the settings of variables
  over it, in order.
-/
import ApiBook.Config.Basic
import ApiBook.Host
import ApiBook.Number.Typed
import ApiBook.Text.Lowercase

namespace ApiBook.Config

/-- What the names of variables begin with that stand for settings. -/
def variableHead : String := "LUACATS_"

/-- The words that stand for truth values, in lower case. -/
def truthWords : List (String × Bool) := [
  ("true", true), ("yes", true), ("false", false), ("no", false)]

/-- The setting that a text stands for: a truth value, a number, or the
text itself. -/
def typedValue (s : String) : Setting :=
  match truthWords.lookup (Text.lowercase s) with
  | some b => .bool b
  | none =>
    match Number.ofTyped? s with
    | some n => .number n
    | none => .text s

/-- A setting in a section. -/
structure Override where
  group : Text
  key : Text
  value : Setting

namespace Override

/-- The section and the key in the name of a variable. The section ends
at the first underscore after the head. -/
def address? (name : String) : Option (Text × Text) :=
  if name.startsWith variableHead then
    match (Text.splitText '_' (Text.lowercase name)).drop 1 with
    | group :: first :: rest => some (group, Text.join "_" (first :: rest))
    | _ => none
  else none

/-- The setting that a variable stands for. -/
def ofVariable? (v : String × String) : Option Override :=
  (address? v.1).map fun (group, key) => ⟨group, key, typedValue v.2⟩

end Override

/-- The configuration with one more setting. A section that is no table
gives way to one. -/
def apply (c : Config) (o : Override) : Config :=
  c.put [o.group, o.key] o.value

/-- The configuration with the settings of variables over it. -/
def override (environment : Variables) (c : Config) : Config :=
  (environment.filterMap Override.ofVariable?).foldl apply c

end ApiBook.Config
