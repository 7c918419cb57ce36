/-
Summaries: what is shown at the end of a run that did not go as wished.

* `Summary`: a kind, which decides the title, and a text;
* `Summary.error`, `Summary.warning`: the summaries that runs end with;
* `Summary.shown`: the text as it is shown among the errors.
-/
import ApiBook.Report.Layout

namespace ApiBook.Report

/-- What a summary is about. -/
inductive SummaryKind where
  | error
  | warning
  deriving DecidableEq, Repr

/-- The title of a summary. -/
def SummaryKind.title : SummaryKind → String
  | error => "Error Summary"
  | warning => "Warning Summary"

/-- A summary. -/
structure Summary where
  kind : SummaryKind
  text : Text
  deriving DecidableEq, Repr

namespace Summary

/-- The title of a summary. -/
def title (s : Summary) : String := s.kind.title

/-- What went wrong, and the details where there are some. -/
def error (message : Text) (details : Option Text) : Summary where
  kind := .error
  text := match details with
    | some d => message ++ "\n\nDetails: " ++ d
    | none => message

/-- Something to be noted. -/
def warning (message : Text) : Summary := ⟨.warning, message⟩

/-- A code point as it is shown among the errors: a surrogate by its
number. -/
def shownCode : Code → List Char
  | .char c => [c]
  | .surrogate n =>
    '\\' :: 'u' :: Text.hexPadded 4 (Code.surrogateBase + n)

/-- The text of a summary as it is shown among the errors. -/
def shown (s : Summary) : String :=
  String.ofList ((laidOut s.text).toList.flatMap shownCode)

end Summary

/-- The exit status of a run that ends with an error, where no other one
is asked for. -/
def defaultExitCode : Int := 1

end ApiBook.Report
