/-
The words of a text.

* `AreWords`: the words of a text are the runs of characters outside a
  class that stand between gaps;
* `areWords_iff`: cutting a text finds them, and nothing else counts as its
  words.
-/
import ApiBook.Text.Pieces
import Mathlib.Data.List.Basic
import Mathlib.Tactic.Common

namespace ApiBook.Text

variable {α : Type}

/-- The words of a text. It is a gap and nothing more; or it begins with a
gap, which may be empty, and a word, and either ends there or goes on with
a character of the class. -/
inductive AreWords (p : α → Bool) : List α → List (List α) → Prop
  | gap {g : List α} (hg : ∀ c ∈ g, p c) : AreWords p g []
  | word {g w rest : List α} {ws : List (List α)}
      (hg : ∀ c ∈ g, p c) (hne : w ≠ []) (hw : ∀ c ∈ w, p c = false)
      (hrest : ∀ c ∈ rest.head?, p c) (h : AreWords p rest ws) :
      AreWords p (g ++ w ++ rest) (w :: ws)

variable {p : α → Bool} {cs : List α} {ws : List (List α)}

/-- A gap at the head belongs to no word. -/
lemma words_gap_append {g : List α} (hg : ∀ c ∈ g, p c)
    (cs : List α) : words p (g ++ cs) = words p cs := by
  induction g with
  | nil => rfl
  | cons c g ih =>
    obtain ⟨hc, hg⟩ := List.forall_mem_cons.mp hg
    rw [List.cons_append, words, wordsFrom, if_pos hc, List.isEmpty_nil,
      if_pos rfl]
    exact ih hg

/-- Characters of a word are added to the one that is open. -/
lemma wordsFrom_word_append {w : List α} (hw : ∀ c ∈ w, p c = false)
    (before rest : List α) :
    wordsFrom p before (w ++ rest) =
      wordsFrom p (w.reverse ++ before) rest := by
  induction w generalizing before with
  | nil => rfl
  | cons c w ih =>
    obtain ⟨hc, hw⟩ := List.forall_mem_cons.mp hw
    rw [List.cons_append, wordsFrom, if_neg (by simp [hc]), ih hw,
      List.reverse_cons, List.append_assoc, List.singleton_append]

/-- A word ends where the text does, or before a character of the class. -/
lemma words_word_append {w rest : List α} (hne : w ≠ [])
    (hw : ∀ c ∈ w, p c = false) (hrest : ∀ c ∈ rest.head?, p c) :
    words p (w ++ rest) = w :: words p rest := by
  have hopen : w.reverse.isEmpty = false := by simpa using hne
  rw [words, wordsFrom_word_append hw, List.append_nil]
  cases rest with
  | nil =>
    rw [wordsFrom, hopen, List.reverse_reverse]
    rfl
  | cons c rest =>
    have hc : p c := hrest c rfl
    have hgap : words p (c :: rest) = words p rest :=
      words_gap_append (g := [c]) (by simpa using hc) rest
    rw [wordsFrom, if_pos hc, hopen, List.reverse_reverse, hgap]
    rfl

/-- What are the words of a text is found by cutting it. -/
lemma AreWords.eq_words (h : AreWords p cs ws) : ws = words p cs := by
  induction h with
  | gap hg =>
    have hwords := words_gap_append hg []
    rw [List.append_nil] at hwords
    exact hwords.symm
  | word hg hne hw hrest _ ih =>
    rw [List.append_assoc, words_gap_append hg,
      words_word_append hne hw hrest, ih]

/-- A character of the class before a text belongs to no word. -/
lemma AreWords.cons {c : α} (hc : p c) (h : AreWords p cs ws) :
    AreWords p (c :: cs) ws := by
  cases h with
  | gap hg => exact .gap (List.forall_mem_cons.mpr ⟨hc, hg⟩)
  | word hg hne hw hrest h =>
    exact .word (List.forall_mem_cons.mpr ⟨hc, hg⟩) hne hw hrest h

/-- What is found by cutting a text, with one word open, are the words of
the text that begins with the open one. -/
lemma areWords_wordsFrom {w : List α} (hw : ∀ c ∈ w, p c = false)
    (cs : List α) : AreWords p (w.reverse ++ cs) (wordsFrom p w cs) := by
  have hnone : ∀ c ∈ ([] : List α), p c := by simp
  induction cs generalizing w with
  | nil =>
    have hword : ∀ c ∈ w.reverse, p c = false := by simpa using hw
    rw [wordsFrom]
    cases w with
    | nil => exact .gap hnone
    | cons d w =>
      exact .word hnone (by simp) hword (by simp) (.gap hnone)
  | cons c cs ih =>
    by_cases hc : p c
    · have hrest : AreWords p (c :: cs) (wordsFrom p [] cs) :=
        .cons hc (ih (w := []) (by simp))
      have hword : ∀ c ∈ w.reverse, p c = false := by simpa using hw
      rw [wordsFrom, if_pos hc]
      cases w with
      | nil => exact hrest
      | cons d w =>
        exact .word hnone (by simp) hword (by simpa using hc) hrest
    · have hopen : ∀ d ∈ c :: w, p d = false :=
        List.forall_mem_cons.mpr ⟨by simpa using hc, hw⟩
      have hrest := ih hopen
      rw [List.reverse_cons, List.append_assoc, List.singleton_append]
        at hrest
      rwa [wordsFrom, if_neg hc]

/-- The words of a text are those that are found by cutting it. -/
lemma areWords_iff : AreWords p cs ws ↔ ws = words p cs := by
  refine ⟨AreWords.eq_words, ?_⟩
  rintro rfl
  exact areWords_wordsFrom (w := []) (by simp) cs

/-- The words of a text that is made of another one member by member. -/
lemma words_map {β : Type} (p : β → Bool) (f : α → β) (cs : List α) :
    words p (cs.map f) = (words (p ∘ f) cs).map (List.map f) := by
  have hfrom : ∀ word : List α, wordsFrom p (word.map f) (cs.map f) =
      (wordsFrom (p ∘ f) word cs).map (List.map f) := by
    induction cs with
    | nil =>
      intro word
      rw [List.map_nil, wordsFrom, wordsFrom, List.isEmpty_map]
      split <;> simp
    | cons c cs ih =>
      intro word
      rw [List.map_cons, wordsFrom, wordsFrom, List.isEmpty_map,
        Function.comp_apply, ← List.map_cons, ih, ← List.map_nil, ih]
      split
      · split <;> simp
      · rfl
  exact hfrom []

/-- A text without words is a gap. -/
lemma words_eq_nil_iff : words p cs = [] ↔ ∀ c ∈ cs, p c := by
  constructor
  · intro h
    cases areWords_iff.mpr h.symm with
    | gap hg => exact hg
  · intro h
    exact (areWords_iff.mp (.gap h)).symm

end ApiBook.Text
