/-
Line ends, and text as it is printed where no terminal reads it.

* `unifyNewlines`: carriage returns, alone or before a line feed, are
  read as one line feed;
* `joinLineEnds`: carriage returns are left out before a line feed, and
  stay where they stand alone;
* `withoutSequences`: a text without the sequences that steer a terminal;
* `printed`: a text as it is printed.
-/

namespace ApiBook.Text

/-! ### Line ends -/

/-- A text with every kind of line end written as a line feed. -/
def unifyNewlines : List Char → List Char
  | [] => []
  | '\r' :: '\n' :: cs => '\n' :: unifyNewlines cs
  | '\r' :: cs => '\n' :: unifyNewlines cs
  | c :: cs => c :: unifyNewlines cs

/-- A text in which a carriage return and a line feed after it are one
line feed. -/
def joinLineEnds : List Char → List Char
  | [] => []
  | '\r' :: '\n' :: cs => '\n' :: joinLineEnds cs
  | c :: cs => c :: joinLineEnds cs

/-! ### Sequences for a terminal -/

/-- The character that a sequence for a terminal starts with. -/
def sequenceStart : Char := Char.ofNat 27

/-- A character between the bracket and the letter of a sequence. -/
def isParameter (c : Char) : Bool := c.isDigit || c = ';' || c = '?'

/-- The length of a sequence without its first character: a bracket,
parameters, and a letter. -/
def sequenceLength? : List Char → Option Nat
  | '[' :: cs =>
    let parameters := cs.takeWhile isParameter
    if ((cs.drop parameters.length).head?).any Char.isAlpha then
      some (parameters.length + 2)
    else none
  | _ => none

/-- A text without the sequences in it; the first `skip` characters
belong to one. -/
def dropSequences (skip : Nat) : List Char → List Char
  | [] => []
  | c :: cs =>
    match skip with
    | skip + 1 => dropSequences skip cs
    | 0 =>
      match if c = sequenceStart then sequenceLength? cs else none with
      | some n => dropSequences n cs
      | none => c :: dropSequences 0 cs

/-- A text without the sequences that steer a terminal. -/
def withoutSequences (cs : List Char) : List Char := dropSequences 0 cs

/-- A text as it is printed: without sequences for a terminal, and
without carriage returns before line feeds. -/
def printed (cs : List Char) : String :=
  String.ofList (joinLineEnds (withoutSequences cs))

end ApiBook.Text
