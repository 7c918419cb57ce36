/-
Taking the arguments of a command apart.

* `Switch`: an option, with or without a value, and its names;
* `parse?`: the options and the other arguments of a command; none if an
  option is unknown, or has a value too many or too few;
* `Parsed.value?`, `Parsed.has`: the value of an option, the last one
  counting, and whether it is there at all.
-/
import ApiBook.Text.Pieces

namespace ApiBook.CommandLine

/-- An option. The first of its names is the one that it goes by; names
of one letter follow a single dash. -/
structure Switch where
  names : List String
  letters : List Char := []
  takesValue : Bool := false
  deriving DecidableEq, Repr

/-- An option as it was given. -/
structure Given where
  switch : Switch
  value : String := ""
  deriving DecidableEq, Repr

/-- The options and the other arguments of a command, in order. -/
structure Parsed where
  options : List Given := []
  rest : List String := []
  deriving DecidableEq, Repr

namespace Parsed

/-- The value that was given last for an option. -/
def value? (p : Parsed) (s : Switch) : Option String :=
  (p.options.reverse.find? (·.switch = s)).map (·.value)

/-- Whether an option was given. -/
def has (p : Parsed) (s : Switch) : Bool := (p.value? s).isSome

/-- The same with options in front. -/
def withOptions (gs : List Given) (p : Parsed) : Parsed :=
  { p with options := gs ++ p.options }

/-- The same with an argument in front. -/
def withArgument (arg : String) (p : Parsed) : Parsed :=
  { p with rest := arg :: p.rest }

end Parsed

/-! ### Single arguments -/

/-- What an argument says: options, the last of which may take the next
argument as its value. -/
structure Reading where
  given : List Given
  pending : Option Switch := none

/-- A long option, with a value after an equals sign or without. -/
def readLong? (switches : List Switch) (arg : List Char) :
    Option Reading :=
  let (name, value) := match Text.breakAt? '=' arg with
    | some (name, value) => (name, some (String.ofList value))
    | none => (arg, none)
  match switches.find? (·.names.contains (String.ofList name)), value with
  | some s, some v => if s.takesValue then some ⟨[⟨s, v⟩], none⟩ else none
  | some s, none =>
    if s.takesValue then some ⟨[], some s⟩ else some ⟨[⟨s, ""⟩], none⟩
  | none, _ => none

/-- Options of one letter in a row. What follows the letter of an option
with a value is the value. -/
def readLetters? (switches : List Switch) : List Char → Option Reading
  | [] => some ⟨[], none⟩
  | c :: cs =>
    match switches.find? (·.letters.contains c) with
    | none => none
    | some s =>
      if s.takesValue then
        if cs.isEmpty then some ⟨[], some s⟩
        else some ⟨[⟨s, String.ofList cs⟩], none⟩
      else
        (readLetters? switches cs).map fun r =>
          { r with given := ⟨s, ""⟩ :: r.given }

/-- What an argument that begins with a dash says. -/
def readOption? (switches : List Switch) (arg : String) :
    Option Reading :=
  match arg.toList with
  | '-' :: '-' :: _ => readLong? switches arg.toList
  | '-' :: letters => readLetters? switches letters
  | _ => none

/-- Whether an argument gives options. -/
def isOption (arg : String) : Bool :=
  arg.startsWith "-" && arg != "-"

/-! ### All arguments -/

/-- The options and the other arguments. If options are `mixed` with the
others, they may come after them as well; two dashes end the options. -/
def parse? (switches : List Switch) (mixed : Bool) :
    List String → Option Parsed
  | [] => some {}
  | arg :: rest =>
    if arg = "--" then some { rest }
    else if isOption arg then
      match readOption? switches arg, rest with
      | none, _ => none
      | some ⟨given, none⟩, rest =>
        (parse? switches mixed rest).map (·.withOptions given)
      | some ⟨_, some _⟩, [] => none
      | some ⟨given, some s⟩, value :: rest =>
        (parse? switches mixed rest).map
          (·.withOptions (given ++ [⟨s, value⟩]))
    else if mixed then
      (parse? switches mixed rest).map (·.withArgument arg)
    else some { rest := arg :: rest }

end ApiBook.CommandLine
