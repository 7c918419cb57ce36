/-
The numbers of chapters in a book that parts are added to again and again.

* `Leads`: the number that an item of a book leads with, if it is a
  numbered chapter;
* `Counted`: a book with its items and the numbers they lead with;
* `nextNumber_of_counted`: the next number is one more than the greatest
  of these;
* `Addition`: a part to be added; `on_add`: the chapters of a part are
  numbered on from the book, and are counted with its items after that;
* `numbers_of_additions`: **no number is given twice**, however many parts
  are added.
-/
import ApiBook.Proofs.Book.Chapter
import ApiBook.Proofs.Book.Part
import ApiBook.Proofs.Workspace.Contents
import Mathlib.Data.List.ReduceOption

namespace ApiBook.Book

open Workspace (Tree)

/-! ### Numbers of items -/

/-- The number that an item leads with, if it is a numbered chapter. Items
that are no chapters have none, nor have chapters without a number or with
an empty one; the number of any other chapter begins with a whole
number. -/
inductive Leads : Value → Option ℤ → Prop
  | other {v : Value} (h : ∀ ms, v ≠ .object ms) : Leads v none
  | unnamed {ms : Members} (h : Members.get? "Chapter" ms = none) :
      Leads (.object ms) none
  | unnumbered {ms chapter : Members}
      (h : Members.get? "Chapter" ms = some (.object chapter))
      (hvoid : ((Members.get? "number" chapter).getD .null).isVoid) :
      Leads (.object ms) none
  | numbered {ms chapter : Members} {i : ℤ} {below : List Value}
      (h : Members.get? "Chapter" ms = some (.object chapter))
      (hnumber : Members.get? "number" chapter =
        some (.list (.int i :: below))) :
      Leads (.object ms) (some i)

/-- The number that an item leads with is found. -/
lemma leadingNumber?_of_leads {v : Value} {n : Option ℤ} (h : Leads v n) :
    leadingNumber? v = .ok (n.map .int) := by
  cases h with
  | other h =>
    cases v with
    | object ms => exact absurd rfl (h ms)
    | _ => rfl
  | unnamed h => rw [leadingNumber?, h]; rfl
  | unnumbered h hvoid =>
    rw [leadingNumber?, h]
    dsimp only
    rw [if_pos hvoid]
    rfl
  | numbered h hnumber =>
    rw [leadingNumber?, h]
    dsimp only
    rw [hnumber]
    rfl

/-- So are the numbers of many items. -/
lemma leadingNumbers_of_leads {items : List Value} {ns : List (Option ℤ)}
    (h : List.Forall₂ Leads items ns) :
    leadingNumbers items = .ok (ns.reduceOption.map .int) := by
  induction h with
  | nil => rfl
  | @cons v n items ns hv _ ih =>
    rw [leadingNumbers, leadingNumber?_of_leads hv, ih]
    cases n <;> rfl

/-- Whole numbers are numbers. -/
lemma allNumbers_int (ns : List ℤ) :
    allNumbers (ns.map .int) = .ok (ns.map .whole) := by
  have hnumbers : (ns.map Value.int).mapM Value.toNumber? =
      some (ns.map Number.whole) := by
    induction ns with
    | nil => rfl
    | cons n ns ih =>
      rw [List.map_cons, List.mapM_cons, ih]
      rfl
  rw [allNumbers, hnumbers]

/-! ### The greatest number -/

/-- The greatest of some numbers; zero if there are none. -/
def top (ns : List ℤ) : ℤ := ns.max?.getD 0

/-- No number is greater than the greatest. -/
lemma le_top {ns : List ℤ} {n : ℤ} (h : n ∈ ns) : n ≤ top ns := by
  obtain ⟨m, hm⟩ := Option.isSome_iff_exists.mp
    (List.isSome_max?_of_mem h)
  rw [top, hm, Option.getD_some]
  exact ((List.max?_eq_some_iff).mp hm).2 n h

/-- The greatest of whole numbers is a whole number. -/
lemma greatest_whole (ns : List ℤ) :
    greatest (ns.map .whole) = .whole (top ns) := by
  have hfold : ∀ (ns : List ℤ) (n : ℤ),
      (ns.map Number.whole).foldl
          (fun best m => if best.lt m then m else best) (.whole n) =
        .whole (ns.foldl max n) := by
    intro ns
    induction ns with
    | nil => exact fun n => rfl
    | cons m ns ih =>
      intro n
      have hstep : (if (Number.whole n).lt (.whole m) then Number.whole m
          else .whole n) = .whole (max n m) := by
        have hlt : (Number.whole n).lt (.whole m) = decide (n < m) := by
          simp [Number.lt, Number.fraction?]
        rw [hlt]
        rcases lt_or_ge n m with h | h
        · simp [h, h.le]
        · simp [h, h.not_gt]
      rw [List.map_cons, List.foldl_cons, hstep, ih, List.foldl_cons]
  cases ns with
  | nil => rfl
  | cons n ns => exact hfold ns n

/-- Numbers that follow the greatest one without a gap. -/
def following (ns : List ℤ) (count : ℕ) : List ℤ :=
  (List.range count).map fun i : ℕ => top ns + (i + 1)

/-- Numbers that follow are strictly increasing. -/
lemma pairwise_following (ns : List ℤ) (count : ℕ) :
    (following ns count).Pairwise (· < ·) := by
  rw [following, List.pairwise_map]
  exact List.pairwise_lt_range.imp fun h => by omega

/-- Numbers that follow are greater than all that were there. -/
lemma lt_of_mem_following {ns : List ℤ} {count : ℕ} {n m : ℤ}
    (hn : n ∈ ns) (hm : m ∈ following ns count) : n < m := by
  obtain ⟨i, -, rfl⟩ := List.mem_map.mp hm
  have := le_top hn
  omega

/-- The greatest number grows by as many as follow. -/
lemma top_append_following (ns : List ℤ) (count : ℕ) :
    top (ns ++ following ns count) = top ns + count := by
  cases count with
  | zero => simp [following]
  | succ count =>
    have hlast : top ns + (count + 1 : ℕ) ∈ following ns (count + 1) :=
      List.mem_map.mpr ⟨count, List.mem_range.mpr (by omega), by push_cast; rfl⟩
    have hmax : (ns ++ following ns (count + 1)).max? =
        some (top ns + (count + 1 : ℕ)) := by
      rw [List.max?_eq_some_iff]
      refine ⟨List.mem_append_right _ hlast, fun m hm => ?_⟩
      rcases List.mem_append.mp hm with hm | hm
      · have := le_top hm
        omega
      · obtain ⟨i, hi, rfl⟩ := List.mem_map.mp hm
        have := List.mem_range.mp hi
        omega
    rw [top, hmax, Option.getD_some]

/-! ### Counted books -/

/-- A book with its items, and the numbers that they lead with. -/
structure Counted (book : Members) (items : List Value) (ns : List ℤ) :
    Prop where
  sections : sectionsOf book = .list items
  leads : ∃ leads, List.Forall₂ Leads items leads ∧ leads.reduceOption = ns

variable {book : Members} {items : List Value} {ns : List ℤ}

/-- A book is counted if each of its items leads with a number or with
none. -/
lemma exists_counted (hsections : sectionsOf book = .list items)
    (hitems : ∀ item ∈ items, ∃ n, Leads item n) :
    ∃ ns, Counted book items ns := by
  have hleads : ∃ leads, List.Forall₂ Leads items leads := by
    clear hsections
    induction items with
    | nil => exact ⟨[], .nil⟩
    | cons item items ih =>
      obtain ⟨⟨n, hn⟩, hrest⟩ := List.forall_mem_cons.mp hitems
      obtain ⟨leads, hleads⟩ := ih hrest
      exact ⟨n :: leads, .cons hn hleads⟩
  obtain ⟨leads, hleads⟩ := hleads
  exact ⟨leads.reduceOption, hsections, leads, hleads, rfl⟩

/-- The next number of a counted book is one more than the greatest. -/
lemma nextNumber_of_counted (h : Counted book items ns) :
    nextNumber book = .ok (.whole (top ns + 1)) := by
  obtain ⟨leads, hleads, rfl⟩ := h.leads
  rw [nextNumber, h.sections, sectionItems]
  change (leadingNumbers items >>= fun vs => allNumbers vs >>= fun numbers =>
    pure (greatest numbers).succ) = _
  rw [leadingNumbers_of_leads hleads]
  change (allNumbers _ >>= _) = _
  rw [allNumbers_int]
  change Except.ok (greatest _).succ = _
  rw [greatest_whole, Number.succ]

/-- More items are counted with their numbers. -/
lemma Counted.append (h : Counted book items ns) {book' : Members}
    {more : List Value} {leads : List (Option ℤ)}
    (hsections : sectionsOf book' = .list (items ++ more))
    (hmore : List.Forall₂ Leads more leads) :
    Counted book' (items ++ more) (ns ++ leads.reduceOption) := by
  obtain ⟨before, hbefore, rfl⟩ := h.leads
  exact ⟨hsections, before ++ leads, List.rel_append hbefore hmore,
    List.reduceOption_append before leads⟩

/-! ### Numbers of chapters -/

/-- No number is left out where each is there. -/
lemma reduceOption_map_some (ns : List ℤ) :
    (ns.map some).reduceOption = ns := by
  rw [List.reduceOption, List.filterMap_map]
  exact List.filterMap_some

/-- The item of a chapter with a number leads with it. -/
lemma leads_item {c : Chapter} {n : ℤ} {below : List ℤ}
    (h : c.number = n :: below) : Leads c.item (some n) := by
  obtain ⟨name, content, number, path, parents, subs⟩ := c
  rw [Chapter.number] at h
  subst h
  rw [Chapter.item]
  exact .numbered rfl rfl

/-- The items of chapters with single numbers lead with them. -/
lemma leads_items {cs : List Chapter} {ns : List ℤ}
    (h : cs.map Chapter.number = ns.map fun n => [n]) :
    List.Forall₂ Leads (Chapter.items cs) (ns.map some) := by
  induction cs generalizing ns with
  | nil =>
    obtain rfl : ns = [] := by simpa using h
    exact .nil
  | cons c cs ih =>
    cases ns with
    | nil => exact absurd h (by simp)
    | cons n ns =>
      obtain ⟨hc, hcs⟩ := List.cons.inj h
      rw [Chapter.items, List.map_cons]
      exact .cons (leads_item hc) (ih hcs)

/-- A title leads with no number. -/
lemma leads_titleItem (title : Text) : Leads (titleItem title) none := by
  rw [titleItem]
  exact .unnamed rfl

/-- Chapters are numbered one after the other. -/
lemma map_number_chaptersOf (p : Plan) (first : ℤ) (parents : List Text)
    (ts : List Tree) :
    (chaptersOf p [] first parents ts).map Chapter.number =
      (List.range ts.length).map fun i : ℕ => [first + i] := by
  induction ts generalizing first with
  | nil => rfl
  | cons t ts ih =>
    rw [chaptersOf, List.map_cons, number_chapterOf, ih, List.length_cons,
      List.range_succ_eq_map, List.map_cons, List.map_map]
    refine congrArg₂ List.cons (by simp) (List.map_congr_left fun i _ => ?_)
    have hnext : first + 1 + i = first + (i + 1 : ℕ) := by omega
    rw [Function.comp_apply, hnext]

/-! ### Additions -/

/-- A part to be added to a book. -/
structure Addition where
  title : Text
  options : Markdown.Options := {}
  folder : Text := "api"
  /-- The depth from which on files have no chapters below their own, if
  there is one. -/
  limit : Option ℕ := none
  workspace : Workspace

namespace Addition

/-- The chapters of the part, numbered from `first`. -/
def chapters (a : Addition) (first : ℤ) :
    Except ChapterFault (List Chapter) :=
  (request a.options a.folder a.limit first).chapters a.workspace

/-- Adding the part. -/
def add (a : Addition) : InPlace PartFault Unit :=
  addPart a.title (request a.options a.folder a.limit 1) a.workspace

/-- The files at the top, which have the chapters that are numbered. -/
def files (a : Addition) : List SourceFile :=
  a.workspace.forest.map Tree.file

end Addition

/-- A book after one part after the other was added, as far as they could
be. -/
def bookAfter (book : Members) (as : List Addition) : Members :=
  as.foldl (fun book a => (a.add.on book).2) book

/-- The chapters of a part are asked for as adding it does. -/
lemma Addition.chapters_from (a : Addition) (first : ℤ) :
    ({ request a.options a.folder a.limit 1 with
      first := .number (.whole first) } : ChapterRequest).chapters
        a.workspace = a.chapters first :=
  rfl

/-- Adding a part to a counted book: its chapters are numbered on from the
book, and nothing happens if they cannot be made. -/
lemma Addition.on_add_eq (h : Counted book items ns) (a : Addition) :
    a.add.on book = match a.chapters (top ns + 1) with
      | .error f => (.error (.chapter f), book)
      | .ok cs =>
        (.ok (), Members.put "sections"
          (.list (items ++ titleItem a.title :: Chapter.items cs)) book) := by
  rw [Addition.add, on_addPart, nextNumber_of_counted h]
  dsimp only
  rw [Addition.chapters_from]
  cases a.chapters (top ns + 1) with
  | error f => rfl
  | ok cs =>
    dsimp only
    rw [on_appendPart h.sections]
    rfl

/-- The chapters of a part are made if its files have names. -/
lemma Addition.exists_chapters (a : Addition)
    (h : ∀ f ∈ a.workspace.walk, f.name.isEmpty = false) (first : ℤ) :
    ∃ cs, a.chapters first = .ok cs :=
  ⟨_, chapters_request h⟩

/-- The chapters of a part are numbered one after the other. -/
lemma Addition.map_number_chapters {a : Addition} {first : ℤ}
    {cs : List Chapter} (h : a.chapters first = .ok cs) :
    cs.map Chapter.number =
      (List.range a.files.length).map fun i : ℕ => [first + i] := by
  have hcs : cs =
      chaptersFrom (planOf a.options a.folder a.limit) first
        a.workspace.forest := by
    simp only [chapters, ChapterRequest.chapters, request,
      ChapterRequest.wholeNumber?, Value.toNumber?] at h
    split at h
    · exact absurd h (by simp)
    · exact (Except.ok.inj h).symm
  rw [hcs, chaptersFrom, map_number_chaptersOf, files, List.length_map]

/-- Chapters that are numbered on from a book have the numbers that
follow. -/
lemma Addition.map_number_eq_following {a : Addition} {cs : List Chapter}
    (hcs : a.chapters (top ns + 1) = .ok cs) :
    cs.map Chapter.number =
      (following ns a.files.length).map fun n => [n] := by
  rw [Addition.map_number_chapters hcs, following, List.map_map]
  refine List.map_congr_left fun i _ => ?_
  have hnext : top ns + 1 + i = top ns + (i + 1) := by omega
  rw [Function.comp_apply, hnext]

/-- A part whose chapters are made is added: its items come last, and are
counted with the numbers that follow. -/
theorem on_add (h : Counted book items ns) {a : Addition}
    {cs : List Chapter} (hcs : a.chapters (top ns + 1) = .ok cs) :
    ∃ book', a.add.on book = (.ok (), book') ∧
      Counted book' (items ++ titleItem a.title :: Chapter.items cs)
        (ns ++ following ns a.files.length) := by
  have hleads := List.Forall₂.cons (leads_titleItem a.title)
    (leads_items (Addition.map_number_eq_following hcs))
  refine ⟨Members.put "sections"
    (.list (items ++ titleItem a.title :: Chapter.items cs)) book, ?_, ?_⟩
  · rw [Addition.on_add_eq h, hcs]
  · have hcounted := h.append (sectionsOf_put _ book) hleads
    rwa [List.reduceOption_cons_of_none, reduceOption_map_some] at hcounted

/-- A part whose chapters cannot be made is not added. -/
lemma on_add_of_fault (h : Counted book items ns) {a : Addition}
    {f : ChapterFault} (hf : a.chapters (top ns + 1) = .error f) :
    a.add.on book = (.error (.chapter f), book) := by
  rw [Addition.on_add_eq h, hf]

/-- However many parts are added, the items of the book stay, and the new
numbers are strictly increasing and greater than the old ones. -/
lemma counted_bookAfter (h : Counted book items ns) (as : List Addition) :
    ∃ more news, Counted (bookAfter book as) (items ++ more) (ns ++ news) ∧
      news.Pairwise (· < ·) ∧ ∀ n ∈ ns, ∀ m ∈ news, n < m := by
  induction as generalizing book items ns with
  | nil => exact ⟨[], [], by simpa [bookAfter] using h, .nil, by simp⟩
  | cons a as ih =>
    rw [bookAfter, List.foldl_cons]
    cases hcs : a.chapters (top ns + 1) with
    | error f =>
      rw [on_add_of_fault h hcs]
      exact ih h
    | ok cs =>
      obtain ⟨book', hadd, hbook'⟩ := on_add h hcs
      rw [hadd]
      obtain ⟨more, news, hcounted, hsorted, hlt⟩ := ih hbook'
      rw [List.append_assoc] at hcounted
      rw [List.append_assoc] at hcounted
      refine ⟨_, _, hcounted, List.pairwise_append.mpr
        ⟨pairwise_following ns _, hsorted, fun n hn m hm => ?_⟩,
        fun n hn m hm => ?_⟩
      · exact hlt n (List.mem_append_right ns hn) m hm
      · rcases List.mem_append.mp hm with hm | hm
        · exact lt_of_mem_following hn hm
        · exact hlt n (List.mem_append_left _ hn) m hm

/-- **No number is given twice.** In a book each item of which is no
chapter, or a chapter without a number, or one whose number begins with a
whole number, the items stay as they are however many parts are added, and
the new numbers are strictly increasing and greater than the old ones. At
any time, the next number is one more than the greatest number then, or
than zero if there is none. If the files of one more part have names, its
chapters are made; they are numbered from there, one after the other, and
added, and then the next number has grown by as many as there are files at
the top. If the chapters cannot be made, the book stays as it is. -/
theorem numbers_of_additions (hsections : sectionsOf book = .list items)
    (hitems : ∀ item ∈ items, ∃ n, Leads item n) (as : List Addition) :
    ∃ ns more news, Counted book items ns ∧
      Counted (bookAfter book as) (items ++ more) (ns ++ news) ∧
      news.Pairwise (· < ·) ∧ (∀ n ∈ ns, ∀ m ∈ news, n < m) ∧
      ∀ m, m = top (ns ++ news) →
        nextNumber (bookAfter book as) = .ok (.whole (m + 1)) ∧
        ∀ a : Addition,
          ((∀ f ∈ a.workspace.walk, f.name.isEmpty = false) →
            ∃ cs, a.chapters (m + 1) = .ok cs) ∧
          (∀ f, a.chapters (m + 1) = .error f →
            a.add.on (bookAfter book as) =
              (.error (.chapter f), bookAfter book as)) ∧
          ∀ cs, a.chapters (m + 1) = .ok cs →
            cs.map Chapter.number =
              (List.range a.files.length).map (fun i : ℕ => [m + (i + 1)]) ∧
            ∃ book', a.add.on (bookAfter book as) = (.ok (), book') ∧
              Counted book'
                (items ++ more ++ titleItem a.title :: Chapter.items cs)
                (ns ++ news ++
                  (List.range a.files.length).map fun i : ℕ =>
                    m + (i + 1)) ∧
              nextNumber book' =
                .ok (.whole (m + 1 + a.files.length)) := by
  obtain ⟨ns, hcounted⟩ := exists_counted hsections hitems
  obtain ⟨more, news, hafter, hsorted, hlt⟩ := counted_bookAfter hcounted as
  refine ⟨ns, more, news, hcounted, hafter, hsorted, hlt, ?_⟩
  rintro m rfl
  refine ⟨nextNumber_of_counted hafter, fun a =>
    ⟨fun hnames => a.exists_chapters hnames _,
      fun f hf => on_add_of_fault hafter hf, fun cs hcs => ?_⟩⟩
  obtain ⟨book', hadd, hbook'⟩ := on_add hafter hcs
  refine ⟨?_, book', hadd, hbook', ?_⟩
  · rw [Addition.map_number_eq_following hcs, following, List.map_map]
    rfl
  · have hgrown : top (ns ++ news) + a.files.length + 1 =
        top (ns ++ news) + 1 + a.files.length := by omega
    rw [nextNumber_of_counted hbook', top_append_following, hgrown]

/-- A book with a separator, a title, chapters numbered out of order, and
chapters without a number. -/
def sampleBook : Members := [("sections", .list [
  .text "Separator",
  .object [("PartTitle", .text "Guide")],
  .object [("Chapter", .object [("number", .list [.int 7])])],
  .object [("Chapter", .object [("number", .list [.int 2, .int 9])])],
  .object [("Chapter", .object [("number", .null)])],
  .object [("Chapter", .object [("number", .list [])])],
  .object [("Chapter", .object [])]])]

/-- A library is added to the book, and once more after that. -/
theorem numbers_of_additions_sampleBook :
    ∃ items, sectionsOf sampleBook = .list items ∧
      (∀ item ∈ items, ∃ n, Leads item n) ∧
      ∃ w, Workspace.build .here (.ofText "/w/lib")
          Workspace.sampleLibrary = .ok w ∧
        ∃ ns more news, Counted sampleBook items ns ∧
          Counted (bookAfter sampleBook
            [{ title := "One", workspace := w },
              { title := "Two", workspace := w }])
            (items ++ more) (ns ++ news) ∧
          news.Pairwise (· < ·) ∧ ∀ n ∈ ns, ∀ m ∈ news, n < m := by
  obtain ⟨w, hw⟩ := Workspace.exists_build .here (.ofText "/w/lib")
    Workspace.resolvable_sampleLibrary
  have hsections : sectionsOf sampleBook = .list _ := rfl
  have hitems : ∀ item ∈ [
      Value.text "Separator",
      .object [("PartTitle", .text "Guide")],
      .object [("Chapter", .object [("number", .list [.int 7])])],
      .object [("Chapter", .object [("number", .list [.int 2, .int 9])])],
      .object [("Chapter", .object [("number", .null)])],
      .object [("Chapter", .object [("number", .list [])])],
      .object [("Chapter", .object [])]], ∃ n, Leads item n := by
    simp only [List.forall_mem_cons]
    exact ⟨⟨_, .other fun _ h => nomatch h⟩, ⟨_, .unnamed rfl⟩,
      ⟨_, .numbered rfl rfl⟩, ⟨_, .numbered rfl rfl⟩,
      ⟨_, .unnumbered rfl rfl⟩, ⟨_, .unnumbered rfl rfl⟩,
      ⟨_, .unnumbered rfl rfl⟩, List.forall_mem_nil _⟩
  obtain ⟨ns, more, news, hcounted, hafter, hsorted, hlt, -⟩ :=
    numbers_of_additions hsections hitems
      [{ title := "One", workspace := w }, { title := "Two", workspace := w }]
  exact ⟨_, rfl, hitems, w, hw, ns, more, news, hcounted, hafter, hsorted,
    hlt⟩

end ApiBook.Book
