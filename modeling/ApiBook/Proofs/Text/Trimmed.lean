/-
What cutting a text down leaves of it.

* `append_of_breakAtLast?`: what comes before and after the last
  separator;
* `exists_append_trim`: a trimmed text is the text between the outer
  characters of a class, and does not begin or end with one;
* `TrimmedOf`: what is left of a text without one character at its ends.
-/
import ApiBook.Text.Pieces
import Mathlib.Data.List.TakeWhile

namespace ApiBook.Text

section Rows

variable {α : Type}

/-! ### Cut in two -/

/-- A text is what comes before the first separator, the separator, and
what comes after it. -/
lemma append_of_breakAt? [DecidableEq α] {sep : α}
    {cs before after : List α}
    (h : breakAt? sep cs = some (before, after)) :
    cs = before ++ sep :: after := by
  induction cs generalizing before with
  | nil => exact absurd h (by simp [breakAt?])
  | cons c cs ih =>
      by_cases hc : c = sep
      · rw [breakAt?, if_pos hc] at h
        obtain ⟨rfl, rfl⟩ := Prod.mk.inj (Option.some.inj h)
        rw [hc, List.nil_append]
      · rw [breakAt?, if_neg hc] at h
        obtain ⟨⟨b, a⟩, hrest, heq⟩ := Option.map_eq_some_iff.mp h
        obtain ⟨rfl, rfl⟩ := Prod.mk.inj heq
        rw [ih hrest, List.cons_append]

/-- A text is what comes before the last separator, the separator, and
what comes after it. -/
lemma append_of_breakAtLast? [DecidableEq α] {sep : α}
    {cs before after : List α}
    (h : breakAtLast? sep cs = some (before, after)) :
    cs = before ++ sep :: after := by
  obtain ⟨⟨a, b⟩, hcut, heq⟩ := Option.map_eq_some_iff.mp h
  obtain ⟨rfl, rfl⟩ := Prod.mk.inj heq
  have hreverse := congrArg List.reverse (append_of_breakAt? hcut)
  simpa using hreverse

/-! ### Cut at the ends -/

/-- What is left when the first characters of a class are dropped does
not begin with one. -/
lemma not_of_mem_head?_dropWhile {p : α → Bool} {cs : List α} :
    ∀ c ∈ (cs.dropWhile p).head?, p c = false := by
  intro c hc
  rw [← List.find?_not_eq_head?_dropWhile] at hc
  simpa using List.find?_some hc

/-- A text is what is left when it is trimmed, between characters of the
class; and what is left neither begins nor ends with one. -/
lemma exists_append_trim (p : α → Bool) (cs : List α) :
    (∃ before after, cs = before ++ trim p cs ++ after ∧
      (∀ c ∈ before, p c) ∧ ∀ c ∈ after, p c) ∧
    (∀ c ∈ (trim p cs).head?, p c = false) ∧
      ∀ c ∈ (trim p cs).getLast?, p c = false := by
  let rest := cs.dropWhile p
  let left := rest.reverse.dropWhile p
  have hrest : rest = left.reverse ++ (rest.reverse.takeWhile p).reverse := by
    rw [← List.reverse_append, List.takeWhile_append_dropWhile,
      List.reverse_reverse]
  have htrim : trim p cs = left.reverse := rfl
  rw [htrim]
  refine ⟨⟨cs.takeWhile p, (rest.reverse.takeWhile p).reverse, ?_,
    fun c hc => List.mem_takeWhile_imp hc, fun c hc =>
      List.mem_takeWhile_imp (List.mem_reverse.mp hc)⟩,
    fun c hc => ?_, fun c hc => ?_⟩
  · rw [List.append_assoc, ← hrest, List.takeWhile_append_dropWhile]
  · have hhead : c ∈ rest.head? := by
      rw [hrest, List.head?_append, Option.mem_def.mp hc]
      rfl
    exact not_of_mem_head?_dropWhile c hhead
  · rw [List.getLast?_reverse] at hc
    exact not_of_mem_head?_dropWhile c hc

end Rows

/-- A text is what is left of another one when a character is taken away
at both ends, as often as it stands there. -/
structure TrimmedOf (c : Code) (s t : Text) : Prop where
  eq : ∃ m n, s.toList =
    List.replicate m c ++ t.toList ++ List.replicate n c
  head : t.toList.head? ≠ some c
  last : t.toList.getLast? ≠ some c

/-- A text that is trimmed of one character. -/
lemma trimmedOf_trim (c : Code) (s : Text) :
    TrimmedOf c s (ofList (trim (· = c) s.toList)) := by
  obtain ⟨⟨before, after, heq, hbefore, hafter⟩, hhead, hlast⟩ :=
    exists_append_trim (· = c) s.toList
  have hreplicate : ∀ {cs : List Code}, (∀ d ∈ cs, decide (d = c)) →
      cs = List.replicate cs.length c := fun h =>
    List.eq_replicate_iff.mpr ⟨rfl, fun d hd => of_decide_eq_true (h d hd)⟩
  constructor
  · refine ⟨before.length, after.length, ?_⟩
    rw [← hreplicate hbefore, ← hreplicate hafter]
    exact heq
  · exact fun h => of_decide_eq_false (hhead c h) rfl
  · exact fun h => of_decide_eq_false (hlast c h) rfl

end ApiBook.Text
