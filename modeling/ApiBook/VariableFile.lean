/-
Files of variables: a name, an equals sign and a value on each line.

* `VariableFile.bindings`: the names and values in a text; lines that
  cannot be read are left out;
* `VariableFile.expand`: a value with the values of other variables in
  it;
* `VariableFile.addTo`: variables with those of a file, which never take
  the place of another one.
-/
import ApiBook.Host
import ApiBook.Text.Pieces

namespace ApiBook.VariableFile

/-! ### Characters -/

/-- The ends of lines. -/
def isLineEnd (c : Char) : Bool := c = '\n' || c = '\r'

/-- Space within a line. -/
def isLineSpace (c : Char) : Bool := Text.isSpacing c && !isLineEnd c

/-- A text without the space at its head. -/
def skipSpace (cs : List Char) : List Char := cs.dropWhile isLineSpace

/-- A text without the rest of its first line. -/
def skipLine (cs : List Char) : List Char :=
  match cs.dropWhile (!isLineEnd ·) with
  | [] => []
  | _ :: rest => rest

/-! ### Names -/

/-- The text after the word that marks a variable for other programs, if
it stands at the head. -/
def skipExport (cs : List Char) : List Char :=
  match cs with
  | 'e' :: 'x' :: 'p' :: 'o' :: 'r' :: 't' :: c :: rest =>
    if isLineSpace c then skipSpace rest else cs
  | _ => cs

/-- A character of a name that stands without quotes. -/
def isNameChar (c : Char) : Bool :=
  c != '=' && c != '#' && !Text.isSpacing c

/-- A name and what follows it. A remark has no name. -/
def takeName : List Char → Option (Option (List Char) × List Char)
  | [] => none
  | '#' :: rest => some (none, '#' :: rest)
  | '\'' :: rest =>
    match rest.span (· != '\'') with
    | (name, _ :: after) =>
      if name.isEmpty then none else some (some name, after)
    | (_, []) => none
  | cs =>
    match cs.span isNameChar with
    | ([], _) => none
    | (name, after) => some (some name, after)

/-! ### Values -/

/-- The text up to a closing quote, and what follows it. A backslash and
the character after it belong together. -/
def takeQuoted (quote : Char) : List Char → Option (List Char × List Char)
  | [] => none
  | '\\' :: c :: cs =>
    (takeQuoted quote cs).map fun (text, after) =>
      ('\\' :: c :: text, after)
  | c :: cs =>
    if c = quote then some ([], cs)
    else (takeQuoted quote cs).map fun (text, after) => (c :: text, after)

/-- What a letter after a backslash stands for between double quotes. -/
def doubleEscape? (c : Char) : Option Char :=
  match c with
  | '\\' => some '\\'
  | '\'' => some '\''
  | '"' => some '"'
  | 'a' => some (Char.ofNat 7)
  | 'b' => some (Char.ofNat 8)
  | 'f' => some (Char.ofNat 12)
  | 'n' => some '\n'
  | 'r' => some '\r'
  | 't' => some '\t'
  | 'v' => some (Char.ofNat 11)
  | _ => none

/-- What a letter after a backslash stands for between single quotes. -/
def singleEscape? (c : Char) : Option Char :=
  if c = '\\' || c = '\'' then some c else none

/-- A text with its escapes carried out. -/
def unescape (escape? : Char → Option Char) : List Char → List Char
  | [] => []
  | '\\' :: c :: cs =>
    match escape? c with
    | some d => d :: unescape escape? cs
    | none => '\\' :: unescape escape? (c :: cs)
  | c :: cs => c :: unescape escape? cs

/-- A text without the remark at its end: a number sign with space before
it. -/
def cutRemark : List Char → List Char
  | [] => []
  | c :: cs =>
    if Text.isSpacing c
        && (cs.dropWhile Text.isSpacing).head? = some '#' then []
    else c :: cutRemark cs

/-- A value that stands without quotes; `spaced` tells that there is space
before it, so that it may be a remark from its first character on. -/
def plainValue (spaced : Bool) (line : List Char) : List Char :=
  Text.trim Text.isSpacing (cutRemark (if spaced then ' ' :: line else line))

/-- A value and what follows it. -/
def takeValue (spaced : Bool) (cs : List Char) :
    Option (List Char × List Char) :=
  match cs with
  | '\'' :: rest =>
    (takeQuoted '\'' rest).map fun (text, after) =>
      (unescape singleEscape? text, after)
  | '"' :: rest =>
    (takeQuoted '"' rest).map fun (text, after) =>
      (unescape doubleEscape? text, after)
  | cs =>
    let (line, after) := cs.span (!isLineEnd ·)
    some (plainValue spaced line, after)

/-! ### Lines -/

/-- What is left after the end of a line, before which only space and a
remark may stand. -/
def takeLineEnd (cs : List Char) : Option (List Char) :=
  let cs := match skipSpace cs with
    | '#' :: rest => rest.dropWhile (!isLineEnd ·)
    | rest => rest
  match cs with
  | [] => some []
  | '\r' :: '\n' :: rest => some rest
  | c :: rest => if isLineEnd c then some rest else none

/-- What a line says: a name and perhaps a value for it. -/
abbrev Binding := Option (String × Option String)

/-- A line, and what follows it. A line that cannot be read says nothing,
and what follows begins after the place where reading broke off. -/
def takeBinding (cs : List Char) : Binding × List Char :=
  let cs := skipExport cs
  match takeName cs with
  | none => (none, skipLine cs)
  | some (name, after) =>
    let after := skipSpace after
    match after with
    | '=' :: space =>
      let rest := skipSpace space
      match takeValue (rest.length < space.length) rest with
      | none => (none, skipLine rest)
      | some (value, rest) =>
        match takeLineEnd rest with
        | none => (none, skipLine rest)
        | some rest =>
          (name.map fun n =>
            (String.ofList n, some (String.ofList value)), rest)
    | after =>
      match takeLineEnd after with
      | none => (none, skipLine after)
      | some rest => (name.map fun n => (String.ofList n, none), rest)

/-- The bindings of a text, of which every line takes at least one
character. -/
def bindingsFrom (fuel : Nat) (cs : List Char) :
    List (String × Option String) :=
  match fuel with
  | 0 => []
  | fuel + 1 =>
    match cs.dropWhile Text.isSpacing with
    | [] => []
    | cs =>
      let (binding, rest) := takeBinding cs
      binding.toList ++ bindingsFrom fuel rest

/-- A text without the byte order mark at its head. -/
def withoutMark : List Char → List Char
  | c :: cs => if c.toNat = 0xFEFF then cs else c :: cs
  | [] => []

/-- The names and values in a text, in order. -/
def bindings (cs : List Char) : List (String × Option String) :=
  bindingsFrom (cs.length + 1) (withoutMark cs)

/-! ### References -/

/-- The name in a reference, what stands for a variable that is not
there, and what follows the reference. -/
def takeReference (cs : List Char) :
    Option (List Char × List Char × List Char) :=
  match cs.span fun c => c != '}' && c != ':' with
  | (name, '}' :: after) => some (name, [], after)
  | (name, ':' :: '-' :: rest) =>
    match rest.span (· != '}') with
    | (default, _ :: after) => some (name, default, after)
    | (_, []) => none
  | _ => none

/-- A value with the values of the variables that it refers to. -/
def expandFrom (fuel : Nat) (environment : Variables) (cs : List Char) :
    List Char :=
  match fuel with
  | 0 => cs
  | fuel + 1 =>
    match cs with
    | [] => []
    | '$' :: '{' :: rest =>
      match takeReference rest with
      | some (name, default, after) =>
        ((environment.lookup (String.ofList name)).map String.toList).getD
            default
          ++ expandFrom fuel environment after
      | none => '$' :: expandFrom fuel environment ('{' :: rest)
    | c :: rest => c :: expandFrom fuel environment rest

/-- A value with the values of the variables that it refers to. -/
def expand (environment : Variables) (value : String) : String :=
  String.ofList
    (expandFrom (value.length + 1) environment value.toList)

/-! ### Variables -/

/-- Variables with a value for a name, in the place of the name if it is
there. -/
def putVariable (name : String) (value : Option String) :
    List (String × Option String) → List (String × Option String)
  | [] => [(name, value)]
  | (n, v) :: rest =>
    if n = name then (n, value) :: rest
    else (n, v) :: putVariable name value rest

/-- The variables of a file that have a value. -/
def valued (vs : List (String × Option String)) : Variables :=
  vs.filterMap fun (n, v) => v.map fun v => (n, v)

/-- The variables of a file as references see them: one without a value
is there, and empty. -/
def referable (vs : List (String × Option String)) : Variables :=
  vs.map fun (n, v) => (n, v.getD "")

/-- The variables of a file, each value with those of the variables
around it, and before it in the file, in it. -/
def resolved (environment : Variables)
    (bs : List (String × Option String)) : Variables :=
  valued (bs.foldl (fun known (n, v) =>
    putVariable n (v.map (expand (environment ++ referable known))) known)
    [])

/-- Why a name cannot have a value as a variable. -/
inductive Fault where
  | unnamable
  | equalsSign
  deriving DecidableEq, Repr

/-- The wording of a fault. -/
def Fault.message : Fault → String
  | unnamable => Disk.unnamableText
  | equalsSign => "illegal environment variable name"

/-- A name and a value as a variable: neither may hold the character NUL,
and the name no equals sign. -/
def checked (v : String × String) : Except Fault (String × String) :=
  if !isNamable v.1 || !isNamable v.2 then .error .unnamable
  else if v.1.toList.contains '=' then .error .equalsSign
  else .ok v

/-- Variables with those of a text added that have other names. -/
def addTo (environment : Variables) (text : List Char) :
    Except Fault Variables := do
  let new := (resolved environment (bindings text)).filter fun (n, _) =>
    (environment.lookup n).isNone
  return environment ++ (← new.mapM checked)

end ApiBook.VariableFile
