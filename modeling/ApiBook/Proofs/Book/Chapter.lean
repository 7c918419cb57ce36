/-
The chapters of a workspace whose files have names.

* `Chapter.ind`: what holds of a chapter once it holds of those within it
  holds of every chapter;
* `Chapter.name`, `Chapter.content`, `Chapter.number`, `Chapter.path`,
  `Chapter.parents`, `Chapter.subs`: parts of a chapter;
  `Chapter.walkAll`: chapters, each before those within it;
* `request`, `planOf`: a request for chapters with a limit that is a depth
  or none at all, and the plan it comes to; `cuts_limitValue_iff`: the
  files that have no chapters below their own are those at the limit or
  below it;
* `chapters_eq_ok`, `chapters_request`: the chapters of a workspace are
  made if its files have names; `name_of_mem_walk`: those of a filled
  workspace do;
* `exists_chapterOf_eq`: what the chapter of a tree says of itself;
* `forall₂_chaptersOf`: what holds of the chapter of each tree holds of
  the chapters of trees.
-/
import ApiBook.Book.ChapterFault
import ApiBook.Proofs.Workspace.Levels
import ApiBook.Proofs.Workspace.Rank

namespace ApiBook

namespace Book

open Workspace (Tree)

namespace Chapter

/-! ### Parts of chapters -/

/-- What holds of a chapter once it holds of those right within it holds
of every chapter. -/
@[elab_as_elim]
theorem ind {P : Chapter → Prop}
    (h : ∀ name content number path parents subs, (∀ c ∈ subs, P c) →
      P (.mk name content number path parents subs)) : ∀ c, P c
  | .mk name content number path parents subs =>
    h name content number path parents subs fun c _ => ind h c

/-- The name of a chapter. -/
def name : Chapter → Text
  | mk name _ _ _ _ _ => name

/-- The text of a chapter. -/
def content : Chapter → Text
  | mk _ content _ _ _ _ => content

/-- The number of a chapter. -/
def number : Chapter → List ℤ
  | mk _ _ number _ _ _ => number

/-- Where the page of a chapter is. -/
def path : Chapter → Text
  | mk _ _ _ path _ _ => path

/-- The names of the chapters around a chapter, from the outermost. -/
def parents : Chapter → List Text
  | mk _ _ _ _ parents _ => parents

/-- The chapters right within a chapter. -/
def subs : Chapter → List Chapter
  | mk _ _ _ _ _ subs => subs

mutual

/-- A chapter and the chapters within it. -/
def walk : Chapter → List Chapter
  | mk name content number path parents subs =>
    mk name content number path parents subs :: walkAll subs

/-- Chapters, each before those within it. -/
def walkAll : List Chapter → List Chapter
  | [] => []
  | c :: cs => c.walk ++ walkAll cs

end

/-- A chapter comes before those within it. -/
lemma walk_eq (c : Chapter) : c.walk = c :: walkAll c.subs := by
  cases c with
  | mk name content number path parents subs => rfl

/-- Chapters with those within them, one chapter after the other. -/
lemma walkAll_eq_flatMap (cs : List Chapter) :
    walkAll cs = cs.flatMap walk := by
  induction cs with
  | nil => rfl
  | cons c cs ih => rw [walkAll, ih, List.flatMap_cons]

/-- The items of chapters, one for each. -/
lemma items_eq_map (cs : List Chapter) : items cs = cs.map item := by
  induction cs with
  | nil => rfl
  | cons c cs ih => rw [items, ih, List.map_cons]

end Chapter

/-! ### Requests -/

/-- A limit as a value: null for none. -/
def limitValue : Option ℕ → Value
  | none => .null
  | some n => .int n

/-- A request for chapters with options that headings can be written
with, a folder, a depth as the limit or none at all, and the number of
the first chapter. -/
def request (o : Markdown.Options) (folder : Text) (limit : Option ℕ)
    (first : ℤ) : ChapterRequest where
  options := .writable o
  folder := .text folder
  limit := limitValue limit
  first := .int first

/-- The plan of a book with a limit that is a depth or none at all. -/
def planOf (o : Markdown.Options) (folder : Text) (limit : Option ℕ) :
    Plan := ⟨o, folder, .ofValue (limitValue limit)⟩

variable {o : Markdown.Options} {folder : Text} {limit : Option ℕ}
  {first : ℤ}

/-- A limit that is a depth or none at all can be compared with depths. -/
lemma limitValue_ne_incomparable (limit : Option ℕ) :
    NavLimit.ofValue (limitValue limit) ≠ .incomparable := by
  cases limit with
  | none => exact fun h => nomatch h
  | some n => exact fun h => nomatch h

/-! ### Faults -/

/-- There is nothing wrong with the chapter of a file that has a name. -/
lemma ownFaults_eq_nil {l : NavLimit} (hl : l ≠ .incomparable)
    {f : SourceFile} (hf : f.name.isEmpty = false) :
    ownFaults true l f = [] := by
  unfold ownFaults
  rw [hf]
  cases l with
  | incomparable => exact absurd rfl hl
  | unlimited => rfl
  | atDepth n => rfl

/-- What is wrong with the chapters of files, one after the other. -/
lemma faultsOfAll_eq_flatMap (b : Bool) (l : NavLimit) (ts : List Tree) :
    faultsOfAll b l ts = ts.flatMap (faults b l) := by
  induction ts with
  | nil => rfl
  | cons t ts ih => rw [faultsOfAll, ih, List.flatMap_cons]

/-- There is nothing wrong with the chapters of files that have names. -/
lemma faults_eq_nil {l : NavLimit} (hl : l ≠ .incomparable) {t : Tree}
    (h : ∀ f ∈ t.walk, f.name.isEmpty = false) : faults true l t = [] := by
  induction t using Tree.ind with
  | _ f ts ih =>
    rw [Tree.walk, Tree.walkAll_eq_flatMap] at h
    obtain ⟨hf, hts⟩ := List.forall_mem_cons.mp h
    have hall : faultsOfAll true l ts = [] := by
      rw [faultsOfAll_eq_flatMap, List.flatMap_eq_nil_iff]
      exact fun t ht => ih t ht fun g hg =>
        hts g (List.mem_flatMap_of_mem ht hg)
    rw [faults, ownFaults_eq_nil hl hf, hall]
    simp

/-- The chapters of a workspace are made if its files have names, for any
limit that can be compared with depths. -/
lemma chapters_eq_ok {w : Workspace} {limit : Value}
    (hlimit : NavLimit.ofValue limit ≠ .incomparable)
    (h : ∀ f ∈ w.walk, f.name.isEmpty = false) :
    ChapterRequest.chapters
        ⟨.writable o, .text folder, limit, .int first⟩ w =
      .ok (chaptersFrom ⟨o, folder, .ofValue limit⟩ first w.forest) := by
  have hnil : faultsOfAll true (.ofValue limit) w.forest = [] := by
    rw [faultsOfAll_eq_flatMap, List.flatMap_eq_nil_iff]
    intro t ht
    refine faults_eq_nil hlimit fun f hf => ?_
    exact h f ((Tree.walk_sublist_walkAll ht).subset hf)
  simp only [ChapterRequest.chapters, ChapterRequest.wholeNumber?,
    Value.toNumber?, ChapterRequest.isWritable, hnil]
  rfl

/-- The chapters of a workspace are made if its files have names. -/
theorem chapters_request {w : Workspace}
    (h : ∀ f ∈ w.walk, f.name.isEmpty = false) :
    (request o folder limit first).chapters w
      = .ok (chaptersFrom (planOf o folder limit) first w.forest) :=
  chapters_eq_ok (limitValue_ne_incomparable limit) h

/-- The files of a filled workspace have names. -/
lemma name_of_mem_walk {current folder : Path} {ds : List Record.Definition}
    {w : Workspace} (h : Workspace.build current folder ds = .ok w)
    {f : SourceFile} (hf : f ∈ w.walk) : f.name.isEmpty = false := by
  obtain ⟨-, hne, hparts, -⟩ := Workspace.path_of_mem_walk h hf
  have hmem : f.name ∈ f.path.parts := Path.name_mem_parts hne
  exact Bool.eq_false_iff.mpr fun hempty =>
    (hparts _ hmem).ne_empty (Text.isEmpty_iff.mp hempty)

/-! ### Chapters of trees -/

section ChapterOf

variable (p : Plan) (number : List ℤ) (parents : List Text) (t : Tree)

/-- The chapter of a tree bears the name of the file at its top, has its
page, and knows of its number and of those around it what it was told. -/
lemma exists_chapterOf_eq :
    ∃ content subs, chapterOf p number parents t =
      .mk t.file.stem content number (pagePath p.folder t.file) parents
        subs := by
  obtain ⟨f, ts⟩ := t
  rw [chapterOf]
  split <;> exact ⟨_, _, rfl⟩

lemma name_chapterOf : (chapterOf p number parents t).name = t.file.stem := by
  obtain ⟨content, subs, h⟩ := exists_chapterOf_eq p number parents t
  rw [h, Chapter.name]

lemma number_chapterOf : (chapterOf p number parents t).number = number := by
  obtain ⟨content, subs, h⟩ := exists_chapterOf_eq p number parents t
  rw [h, Chapter.number]

lemma path_chapterOf :
    (chapterOf p number parents t).path = pagePath p.folder t.file := by
  obtain ⟨content, subs, h⟩ := exists_chapterOf_eq p number parents t
  rw [h, Chapter.path]

lemma parents_chapterOf :
    (chapterOf p number parents t).parents = parents := by
  obtain ⟨content, subs, h⟩ := exists_chapterOf_eq p number parents t
  rw [h, Chapter.parents]

end ChapterOf

/-- What holds of the chapter of each tree holds of the chapters, one for
each. -/
lemma forall₂_chaptersOf {p : Plan} {R : Tree → Chapter → Prop}
    {ts : List Tree}
    (h : ∀ t ∈ ts, ∀ number parents, R t (chapterOf p number parents t))
    (number : List ℤ) (next : ℤ) (parents : List Text) :
    List.Forall₂ R ts (chaptersOf p number next parents ts) := by
  induction ts generalizing next with
  | nil => exact .nil
  | cons t ts ih =>
    obtain ⟨ht, hts⟩ := List.forall_mem_cons.mp h
    exact .cons (ht _ _) (ih hts (next + 1))

end Book

end ApiBook
