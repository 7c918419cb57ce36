/-
Where the chapters of a workspace stand, and what is kept of that in them.

* `trail?`: what there is on the way down to a position;
* `mem_walkAll_iff`: the chapters are what there is at some position;
* `of_trail?_chaptersOf`: a chapter is numbered as its position says, and
  holds the names of the chapters above it; `map_name_trail?_chaptersOf`: the
  chapters stand where their files do;
* `pairwise_chapterOf`: the numbers increase from chapter to chapter;
* `WellPlaced`: all of this of the chapters of a book;
* `Shows`, `shows_item`, `Shows.unique`: an item shows a chapter with all that
  lies within it, and no other chapter;
* `positions_of_build`: **the chapters of a workspace are well placed, and
  their items show them**, whatever the limit is.
-/
import ApiBook.Proofs.Book.Chapter
import ApiBook.Proofs.Workspace.Contents

namespace ApiBook.Book

open Workspace (Tree)
open Record (Definition)

/-! ### Positions -/

section Positions

variable {α : Type} {below : α → List α} {as l : List α} {i : ℕ} {is : List ℕ}

/-- What there is on the way down to a position, the outermost first. The
position says for every level which of what is there is taken, counted from
zero. -/
def trail? (below : α → List α) (as : List α) : List ℕ → Option (List α)
  | [] => some []
  | i :: is =>
    match as[i]? with
    | none => none
    | some a => (trail? below (below a) is).map (a :: ·)

/-- The way down begins somewhere and goes on below. -/
lemma trail?_cons_eq_some_iff :
    trail? below as (i :: is) = some l ↔
      ∃ a rest, as[i]? = some a ∧ trail? below (below a) is = some rest ∧
        l = a :: rest := by
  rw [trail?]
  cases as[i]? with
  | none => simp
  | some a => simp [eq_comm]

/-- What is said of all on the way down begins with what is said of the
first. -/
lemma map_trail?_cons {β : Type} (f : α → β) :
    (trail? below as (i :: is)).map (List.map f) = as[i]?.bind fun a =>
      ((trail? below (below a) is).map (List.map f)).map (f a :: ·) := by
  rw [trail?]
  cases as[i]? with
  | none => rfl
  | some a =>
    dsimp only [Option.bind_some]
    cases trail? below (below a) is <;> rfl

/-- The way down is as long as the position. -/
lemma length_of_trail? (h : trail? below as is = some l) :
    l.length = is.length := by
  induction is generalizing as l with
  | nil =>
    obtain rfl := Option.some.inj h
    rfl
  | cons i is ih =>
    obtain ⟨a, rest, -, hrest, rfl⟩ := trail?_cons_eq_some_iff.mp h
    rw [List.length_cons, ih hrest, List.length_cons]

end Positions

/-- All chapters on the way down are among the chapters. -/
lemma mem_walkAll_of_trail? {cs l : List Chapter} {is : List ℕ}
    (h : trail? Chapter.subs cs is = some l) :
    ∀ c ∈ l, c ∈ Chapter.walkAll cs := by
  induction is generalizing cs l with
  | nil =>
    obtain rfl := Option.some.inj h
    exact List.forall_mem_nil _
  | cons i is ih =>
    obtain ⟨d, rest, hd, hrest, rfl⟩ := trail?_cons_eq_some_iff.mp h
    have hwalk : ∀ c ∈ d.walk, c ∈ Chapter.walkAll cs := fun c hc => by
      rw [Chapter.walkAll_eq_flatMap]
      exact List.mem_flatMap_of_mem (List.mem_of_getElem? hd) hc
    rw [Chapter.walk_eq] at hwalk
    obtain ⟨hself, hbelow⟩ := List.forall_mem_cons.mp hwalk
    exact List.forall_mem_cons.mpr
      ⟨hself, fun c hc => hbelow c (ih hrest c hc)⟩

/-- A chapter that stands somewhere within one of some chapters, or is one
of them, stands somewhere within these. -/
lemma exists_trail_of_forall {cs : List Chapter} {c : Chapter}
    (h : ∀ d ∈ cs, c ∈ Chapter.walkAll d.subs →
      ∃ i is above, trail? Chapter.subs d.subs (i :: is) = some (above ++ [c]))
    (hc : c ∈ Chapter.walkAll cs) :
    ∃ i is above, trail? Chapter.subs cs (i :: is) = some (above ++ [c]) := by
  rw [Chapter.walkAll_eq_flatMap] at hc
  obtain ⟨d, hd, hc⟩ := List.mem_flatMap.mp hc
  obtain ⟨i, hi⟩ := List.mem_iff_getElem?.mp hd
  rw [Chapter.walk_eq] at hc
  rcases List.mem_cons.mp hc with rfl | hc
  · exact ⟨i, [], [], trail?_cons_eq_some_iff.mpr ⟨c, [], hi, rfl, rfl⟩⟩
  · obtain ⟨j, is, above, htrail⟩ := h d hd hc
    exact ⟨i, j :: is, d :: above,
      trail?_cons_eq_some_iff.mpr ⟨d, _, hi, htrail, rfl⟩⟩

/-- The chapters are what there is at some position. -/
lemma mem_walkAll_iff {cs : List Chapter} {c : Chapter} :
    c ∈ Chapter.walkAll cs ↔
      ∃ i is above, trail? Chapter.subs cs (i :: is) = some (above ++ [c]) := by
  have hwithin : ∀ d : Chapter, c ∈ Chapter.walkAll d.subs →
      ∃ i is above,
        trail? Chapter.subs d.subs (i :: is) = some (above ++ [c]) := by
    intro d
    induction d using Chapter.ind with
    | _ name content number path parents subs ih =>
      exact exists_trail_of_forall ih
  constructor
  · exact exists_trail_of_forall fun d _ => hwithin d
  · rintro ⟨i, is, above, htrail⟩
    exact mem_walkAll_of_trail? htrail c (by simp)

/-! ### Chapters of trees at their positions -/

variable {p : Plan} {number : List ℤ} {next : ℤ} {parents : List Text}
  {ts : List Tree}

/-- The trees right below a tree whose files have chapters of their own. -/
def NavLimit.below (limit : NavLimit) (t : Tree) : List Tree :=
  if limit.cuts t.file.depth then [] else t.subs

/-- They are among those below it. -/
lemma NavLimit.below_subset (limit : NavLimit) (t : Tree) :
    limit.below t ⊆ t.subs := by
  rw [below]
  split
  · exact List.nil_subset _
  · exact List.Subset.refl _

/-- The chapters within the chapter of a tree are told its number and its
name. -/
lemma subs_chapterOf (p : Plan) (number : List ℤ) (parents : List Text)
    (t : Tree) : (chapterOf p number parents t).subs =
      chaptersOf p number 1 (parents ++ [t.file.stem]) (p.limit.below t) := by
  obtain ⟨f, ts⟩ := t
  rw [chapterOf, NavLimit.below, Tree.file_node]
  split <;> rfl

/-- The chapter at one place among chapters of trees. -/
lemma getElem?_chaptersOf (i : ℕ) :
    (chaptersOf p number next parents ts)[i]? =
      ts[i]?.map (chapterOf p (number ++ [next + i]) parents) := by
  induction ts generalizing next i with
  | nil => rfl
  | cons t ts ih =>
    rw [chaptersOf]
    cases i with
    | zero => simp
    | succ i =>
      have hnext : next + 1 + i = next + (i + 1 : ℕ) := by omega
      rw [List.getElem?_cons_succ, List.getElem?_cons_succ, ih, hnext]

/-- A chapter is numbered as its position says, and holds the names of the
chapters above it. -/
lemma of_trail?_chaptersOf {i : ℕ} {is : List ℕ} {above : List Chapter}
    {c : Chapter} (h : trail? Chapter.subs
      (chaptersOf p number next parents ts) (i :: is) = some (above ++ [c])) :
    c.number = number ++ (next + i) :: is.map (fun k : ℕ => (k : ℤ) + 1) ∧
      c.parents = parents ++ above.map Chapter.name := by
  -- on the way down, number and names are those of the chapter passed last
  induction is generalizing i number next parents ts above with
  | nil =>
    obtain ⟨d, rest, hd, hrest, heq⟩ := trail?_cons_eq_some_iff.mp h
    obtain rfl := Option.some.inj hrest
    obtain ⟨rfl, rfl⟩ : above = [] ∧ c = d := by
      simpa [List.append_eq_cons_iff] using heq
    rw [getElem?_chaptersOf] at hd
    obtain ⟨t, -, rfl⟩ := Option.map_eq_some_iff.mp hd
    rw [number_chapterOf, parents_chapterOf]
    exact ⟨rfl, (List.append_nil parents).symm⟩
  | cons k is ih =>
    obtain ⟨d, rest, hd, hrest, heq⟩ := trail?_cons_eq_some_iff.mp h
    obtain ⟨e, below, -, -, rfl⟩ := trail?_cons_eq_some_iff.mp hrest
    obtain ⟨above, rfl⟩ : ∃ above', above = d :: above' := by
      cases above with
      | nil => simp at heq
      | cons a above => exact ⟨above, by rw [(List.cons.inj heq).1]⟩
    rw [← (List.cons.inj heq).2] at hrest
    rw [getElem?_chaptersOf] at hd
    obtain ⟨t, -, rfl⟩ := Option.map_eq_some_iff.mp hd
    rw [subs_chapterOf] at hrest
    obtain ⟨hnumber, hparents⟩ := ih hrest
    rw [hnumber, hparents, List.append_assoc, List.append_assoc,
      Int.add_comm 1]
    refine ⟨rfl, ?_⟩
    rw [List.map_cons, name_chapterOf, List.singleton_append]

/-- On the way down to a position there are the chapters of the files that
there are on that way, as far as the limit goes. -/
lemma map_name_trail?_chaptersOf (is : List ℕ) :
    (trail? Chapter.subs (chaptersOf p number next parents ts) is).map
        (List.map Chapter.name) =
      (trail? p.limit.below ts is).map (List.map (·.file.stem)) := by
  induction is generalizing number next parents ts with
  | nil => rfl
  | cons i is ih =>
    rw [map_trail?_cons, map_trail?_cons, getElem?_chaptersOf]
    cases ts[i]? with
    | none => rfl
    | some t =>
      simp only [Option.map_some, Option.bind_some, name_chapterOf,
        subs_chapterOf, ih]

/-! ### The order of numbers -/

/-- The number of a chapter among chapters of trees goes on from the number
before it, with what is next or comes later. -/
lemma exists_number_of_mem_walkAll {c : Chapter}
    (h : c ∈ Chapter.walkAll (chaptersOf p number next parents ts)) :
    ∃ i below, next ≤ i ∧ c.number = number ++ i :: below := by
  obtain ⟨i, is, above, htrail⟩ := mem_walkAll_iff.mp h
  exact ⟨next + i, _, by omega, (of_trail?_chaptersOf htrail).1⟩

/-- The numbers of chapters of trees increase, each before those within it,
if they do for each tree. -/
lemma pairwise_chaptersOf_of_forall
    (h : ∀ t ∈ ts, ∀ number parents,
      ((chapterOf p number parents t).walk.map Chapter.number).Pairwise
        (· < ·)) :
    ((Chapter.walkAll (chaptersOf p number next parents ts)).map
      Chapter.number).Pairwise (· < ·) := by
  induction ts generalizing next with
  | nil => exact .nil
  | cons t ts ih =>
    obtain ⟨ht, hts⟩ := List.forall_mem_cons.mp h
    rw [chaptersOf, Chapter.walkAll, List.map_append]
    refine List.pairwise_append.mpr ⟨ht _ _, ih hts, fun m hm n hn => ?_⟩
    obtain ⟨c, hc, rfl⟩ := List.mem_map.mp hm
    obtain ⟨d, hd, rfl⟩ := List.mem_map.mp hn
    obtain ⟨j, below', hj, hd⟩ := exists_number_of_mem_walkAll hd
    obtain ⟨below, hc⟩ :
        ∃ below, c.number = number ++ next :: below := by
      rw [Chapter.walk_eq] at hc
      rcases List.mem_cons.mp hc with rfl | hc
      · exact ⟨[], number_chapterOf p _ parents t⟩
      · rw [subs_chapterOf] at hc
        obtain ⟨i, below, -, hc⟩ := exists_number_of_mem_walkAll hc
        exact ⟨i :: below, by rw [hc, List.append_assoc]; rfl⟩
    rw [hc, hd]
    exact List.append_left_lt (.rel (by omega))

/-- So the numbers of the chapters of every tree increase. -/
lemma pairwise_chapterOf (t : Tree) (number : List ℤ)
    (parents : List Text) :
    ((chapterOf p number parents t).walk.map Chapter.number).Pairwise
      (· < ·) := by
  induction t using Tree.ind generalizing number parents with
  | _ f ts ih =>
    rw [Chapter.walk_eq, List.map_cons, subs_chapterOf, number_chapterOf]
    refine List.Pairwise.cons (fun m hm => ?_)
      (pairwise_chaptersOf_of_forall fun t ht =>
        ih t (p.limit.below_subset (.node f ts) ht))
    obtain ⟨c, hc, rfl⟩ := List.mem_map.mp hm
    obtain ⟨i, below, -, hc⟩ := exists_number_of_mem_walkAll hc
    calc number
      _ = number ++ [] := (List.append_nil number).symm
      _ < number ++ i :: below :=
        List.append_left_lt (List.nil_lt_cons i below)
      _ = c.number := hc.symm

/-! ### Well-placed chapters -/

/-- Chapters that are numbered from `first`, every one by its position, and
that hold the names of those above them. -/
structure WellPlaced (first : ℤ) (cs : List Chapter) : Prop where
  /-- The chapters are what there is at some position. -/
  mem_iff (c : Chapter) : c ∈ Chapter.walkAll cs ↔
    ∃ i is above, trail? Chapter.subs cs (i :: is) = some (above ++ [c])
  number_eq {i : ℕ} {is : List ℕ} {above : List Chapter} {c : Chapter}
    (h : trail? Chapter.subs cs (i :: is) = some (above ++ [c])) :
    c.number = (first + i) :: is.map fun k : ℕ => (k : ℤ) + 1
  parents_eq {i : ℕ} {is : List ℕ} {above : List Chapter} {c : Chapter}
    (h : trail? Chapter.subs cs (i :: is) = some (above ++ [c])) :
    c.parents = above.map Chapter.name
  /-- From chapter to chapter, numbers come later in lexicographic order. -/
  increasing : ((Chapter.walkAll cs).map Chapter.number).Pairwise (· < ·)
  nodup : ((Chapter.walkAll cs).map Chapter.number).Nodup
  length_number {c : Chapter} (h : c ∈ Chapter.walkAll cs) :
    c.number.length = c.parents.length + 1

/-- The chapters of trees are well placed. -/
theorem wellPlaced_chaptersFrom (p : Plan) (first : ℤ) (ts : List Tree) :
    WellPlaced first (chaptersFrom p first ts) := by
  have hplaced : ∀ {i is above c}, trail? Chapter.subs
      (chaptersFrom p first ts) (i :: is) = some (above ++ [c]) →
      c.number = (first + i) :: is.map (fun k : ℕ => (k : ℤ) + 1) ∧
        c.parents = above.map Chapter.name := of_trail?_chaptersOf
  have hincreasing : ((Chapter.walkAll (chaptersFrom p first ts)).map
      Chapter.number).Pairwise (· < ·) :=
    pairwise_chaptersOf_of_forall fun t _ => pairwise_chapterOf t
  refine ⟨fun c => mem_walkAll_iff, fun h => (hplaced h).1,
    fun h => (hplaced h).2, hincreasing, ?_, fun {c} hc => ?_⟩
  · exact hincreasing.imp fun h => ne_of_lt h
  · obtain ⟨i, is, above, htrail⟩ := mem_walkAll_iff.mp hc
    obtain ⟨hnumber, hparents⟩ := hplaced htrail
    have hlength := length_of_trail? htrail
    simp only [List.length_append, List.length_cons, List.length_nil]
      at hlength
    simp only [hnumber, hparents, List.length_cons, List.length_map]
    omega

/-! ### Items -/

/-- An item of a book shows a chapter: it says of it what is to be said, and
its sub items show the chapters within it, in order. -/
inductive Shows : Chapter → Value → Prop
  | intro {c : Chapter} {fields : Members} {subs : List Value}
      (name : Members.get? "name" fields = some (.text c.name))
      (content : Members.get? "content" fields = some (.text c.content))
      (number : Members.get? "number" fields =
        some (.list (c.number.map .int)))
      (path : Members.get? "path" fields = some (.text c.path))
      (parents : Members.get? "parent_names" fields =
        some (.list (c.parents.map .text)))
      (subItems : Members.get? "sub_items" fields = some (.list subs))
      (below : List.Forall₂ Shows c.subs subs) :
      Shows c (.object [("Chapter", .object fields)])

/-- The item of a chapter shows it, if the chapter and those within it have
numbers. -/
lemma shows_item {c : Chapter} (h : ∀ d ∈ c.walk, d.number ≠ []) :
    Shows c c.item := by
  induction c using Chapter.ind with
  | _ name content number path parents subs ih =>
    rw [Chapter.walk] at h
    obtain ⟨hnumber, hsubs⟩ := List.forall_mem_cons.mp h
    rw [Chapter.walkAll_eq_flatMap] at hsubs
    have hvalue : numberValue number = .list (number.map .int) := by
      rw [numberValue, if_neg]
      simpa [Chapter.number] using hnumber
    rw [Chapter.item, hvalue]
    refine .intro rfl rfl rfl rfl rfl rfl ?_
    rw [Chapter.items_eq_map, List.forall₂_map_right_iff]
    exact List.forall₂_same.mpr fun c hc => ih c hc fun d hd =>
      hsubs d (List.mem_flatMap_of_mem hc hd)

/-- Items show chapters in one way only if each of the chapters is the only
one that an item shows. -/
lemma eq_of_forall₂_shows {cs ds : List Chapter} {vs : List Value}
    (hcs : List.Forall₂ Shows cs vs) (hds : List.Forall₂ Shows ds vs)
    (h : ∀ c ∈ cs, ∀ {d v}, Shows c v → Shows d v → c = d) : cs = ds := by
  induction hcs generalizing ds with
  | nil =>
    cases hds
    rfl
  | cons hc _ ih =>
    obtain ⟨hhead, htail⟩ := List.forall_mem_cons.mp h
    cases hds with
    | cons hd hds => rw [hhead hc hd, ih hds htail]

/-- An item shows one chapter only. -/
lemma Shows.unique {c d : Chapter} {v : Value} (hc : Shows c v)
    (hd : Shows d v) : c = d := by
  induction c using Chapter.ind generalizing d v with
  | _ name content number path parents subs ih =>
    obtain ⟨name', content', number', path', parents', subs'⟩ := d
    cases hc with
    | intro hname hcontent hnumber hpath hparents hitems hbelow =>
    cases hd with
    | intro hname' hcontent' hnumber' hpath' hparents' hitems' hbelow' =>
    have htext : ∀ {m : Option Value} {s s' : Text},
        m = some (.text s) → m = some (.text s') → s = s' := fun h h' =>
      Value.text.inj (Option.some.inj (h.symm.trans h'))
    have hlist : ∀ {m : Option Value} {vs vs' : List Value},
        m = some (.list vs) → m = some (.list vs') → vs = vs' := fun h h' =>
      Value.list.inj (Option.some.inj (h.symm.trans h'))
    obtain rfl : name = name' := htext hname hname'
    obtain rfl : content = content' := htext hcontent hcontent'
    obtain rfl : path = path' := htext hpath hpath'
    have hnumbers : number = number' :=
      List.map_injective_iff.mpr
        (fun _ _ h => Number.whole.inj (Value.number.inj h))
        (hlist hnumber hnumber')
    have hnames : parents = parents' :=
      List.map_injective_iff.mpr (fun _ _ h => Value.text.inj h)
        (hlist hparents hparents')
    have hsubs : subs = subs' := by
      obtain rfl := hlist hitems hitems'
      exact eq_of_forall₂_shows hbelow hbelow' fun c hc => ih c hc
    rw [hnumbers, hnames, hsubs]

/-- The items of well-placed chapters show them. -/
lemma WellPlaced.shows_items {first : ℤ} {cs : List Chapter}
    (h : WellPlaced first cs) : List.Forall₂ Shows cs (Chapter.items cs) := by
  rw [Chapter.items_eq_map, List.forall₂_map_right_iff]
  refine List.forall₂_same.mpr fun c hc => shows_item fun d hd => ?_
  have hlength : d.number.length = d.parents.length + 1 := by
    apply h.length_number
    rw [Chapter.walkAll_eq_flatMap]
    exact List.mem_flatMap_of_mem hc hd
  exact List.ne_nil_of_length_eq_add_one hlength

/-- **The chapters of a workspace stand where they should.** Whatever the
folder of a book is, the limit, be it null or any number, and the number of
the first chapter, the chapters are made. They stand where their files do,
as far as the limit goes. At every position, a chapter is numbered from the
first number on the top level and from one on the levels below, and holds
the names of the chapters above it; so the numbers increase from chapter to
chapter, and are one longer than the names. The items of the chapters show
them with all that lies within them, in the same order, and show no other
chapters. -/
theorem positions_of_build {current root : Path} {ds : List Definition}
    {w : Workspace} (h : Workspace.build current root ds = .ok w)
    (o : Markdown.Options) (folder : Text) (limit : Value) (first : ℤ)
    (hlimit : NavLimit.ofValue limit ≠ .incomparable) :
    ∃ cs, ChapterRequest.chapters
        ⟨.writable o, .text folder, limit, .int first⟩ w = .ok cs ∧
      (∀ is, (trail? Chapter.subs cs is).map (List.map Chapter.name) =
        (trail? (NavLimit.ofValue limit).below w.forest is).map
          (List.map (·.file.stem))) ∧
      WellPlaced first cs ∧
      List.Forall₂ Shows cs (Chapter.items cs) ∧
      ∀ cs', List.Forall₂ Shows cs' (Chapter.items cs) → cs' = cs := by
  have hplaced := wellPlaced_chaptersFrom
    ⟨o, folder, .ofValue limit⟩ first w.forest
  exact ⟨_, chapters_eq_ok hlimit fun f => name_of_mem_walk h,
    map_name_trail?_chaptersOf, hplaced, hplaced.shows_items,
    fun cs' hcs' =>
      eq_of_forall₂_shows hcs' hplaced.shows_items fun _ _ => Shows.unique⟩

/-- A book of the library whose chapters are numbered from five, with no
chapters below those at the top and those right below them. -/
theorem positions_of_build_sampleLibrary :
    ∃ w, Workspace.build .here (.ofText "/w/lib")
        Workspace.sampleLibrary = .ok w ∧
      NavLimit.ofValue (.int 1) ≠ .incomparable ∧
      ∃ cs, ChapterRequest.chapters
          ⟨.writable {}, .text "api", .int 1, .int 5⟩ w = .ok cs ∧
        (∀ is, (trail? Chapter.subs cs is).map (List.map Chapter.name) =
          (trail? (NavLimit.ofValue (.int 1)).below w.forest is).map
            (List.map (·.file.stem))) ∧
        WellPlaced 5 cs ∧ List.Forall₂ Shows cs (Chapter.items cs) := by
  obtain ⟨w, hw⟩ := Workspace.exists_build .here (.ofText "/w/lib")
    Workspace.resolvable_sampleLibrary
  have hlimit : NavLimit.ofValue (.int 1) ≠ .incomparable :=
    fun h => nomatch h
  obtain ⟨cs, hcs, hfiles, hplaced, hitems, -⟩ :=
    positions_of_build hw {} "api" (.int 1) 5 hlimit
  exact ⟨w, hw, hlimit, cs, hcs, hfiles, hplaced, hitems⟩

end ApiBook.Book
