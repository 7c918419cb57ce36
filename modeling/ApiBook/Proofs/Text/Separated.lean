/-
Cutting and joining at a separator undo each other.

* `not_mem_of_mem_split`: no piece of a cut text holds the separator;
* `splitText_append`: two texts with a separator between them are cut
  apart;
* `split_intercalate`: a joined text is cut into the pieces it was made
  of, as long as none of them holds the separator;
* `join_splitText`: a text that is cut and joined is the text it was;
* `join_inj`: a joined text determines the pieces;
* `join_map_join`: texts that were joined themselves are joined as one;
* `join_filter_map_join`: and those that were joined from nothing can be
  left out.
-/
import ApiBook.Proofs.Text.Joined
import ApiBook.Text.Pieces
import Mathlib.Data.List.Basic
import Mathlib.Tactic.Common

namespace ApiBook.Text

section Rows

variable {α : Type} [DecidableEq α] {sep : α}

/-- The pieces of a text are never none at all. -/
lemma split_ne_nil (sep : α) (cs : List α) : split sep cs ≠ [] := by
  cases cs with
  | nil => simp [split]
  | cons c cs =>
      rw [split]
      split
      · simp
      · split <;> simp

/-- A character other than the separator goes to the first piece. -/
lemma split_cons_of_ne {c : α} (h : c ≠ sep) (cs : List α) :
    ∃ piece pieces, split sep cs = piece :: pieces ∧
      split sep (c :: cs) = (c :: piece) :: pieces := by
  obtain ⟨piece, pieces, hs⟩ :=
    List.exists_cons_of_ne_nil (split_ne_nil sep cs)
  exact ⟨piece, pieces, hs, by rw [split, if_neg h, hs]⟩

/-- No piece holds the separator. -/
lemma not_mem_of_mem_split {cs piece : List α}
    (h : piece ∈ split sep cs) : sep ∉ piece := by
  induction cs generalizing piece with
  | nil =>
      rw [split, List.mem_singleton] at h
      simp [h]
  | cons c cs ih =>
      by_cases hc : c = sep
      · rw [split, if_pos hc, List.mem_cons] at h
        rcases h with rfl | h
        · simp
        · exact ih h
      · obtain ⟨p, ps, hs, hs'⟩ := split_cons_of_ne hc cs
        rw [hs', List.mem_cons] at h
        rcases h with rfl | h
        · have hp : sep ∉ p := ih (by simp [hs])
          simp [hp, Ne.symm hc]
        · exact ih (by simp [hs, h])

/-- A text without the separator is one piece, whatever comes after the
next separator. -/
lemma split_append_sep {piece : List α} (h : sep ∉ piece)
    (cs : List α) : split sep (piece ++ sep :: cs) = piece :: split sep cs := by
  induction piece with
  | nil => simp [split]
  | cons c piece ih =>
      rw [List.mem_cons, not_or] at h
      obtain ⟨p, ps, hs, hs'⟩ :=
        split_cons_of_ne (Ne.symm h.1) (piece ++ sep :: cs)
      rw [ih h.2, List.cons.injEq] at hs
      rw [List.cons_append, hs', ← hs.1, ← hs.2]

/-- A text without the separator is one piece. -/
lemma split_eq_singleton {piece : List α} (h : sep ∉ piece) :
    split sep piece = [piece] := by
  induction piece with
  | nil => rfl
  | cons c piece ih =>
      rw [List.mem_cons, not_or] at h
      obtain ⟨p, ps, hs, hs'⟩ := split_cons_of_ne (Ne.symm h.1) piece
      rw [ih h.2, List.cons.injEq] at hs
      rw [hs', ← hs.1, ← hs.2]

/-- The pieces of two texts with a separator between them are those of the
one and those of the other. -/
lemma split_append (cs ds : List α) :
    split sep (cs ++ sep :: ds) = split sep cs ++ split sep ds := by
  induction cs with
  | nil => simp [split]
  | cons c cs ih =>
      by_cases hc : c = sep
      · rw [List.cons_append, split, split, if_pos hc, if_pos hc, ih,
          List.cons_append]
      · obtain ⟨p, ps, hs, hs'⟩ := split_cons_of_ne hc (cs ++ sep :: ds)
        obtain ⟨q, qs, ht, ht'⟩ := split_cons_of_ne hc cs
        rw [ih, ht, List.cons_append, List.cons.injEq] at hs
        rw [List.cons_append, hs', ht', List.cons_append, ← hs.1, ← hs.2]

/-- A joined text is cut into the pieces it was made of. -/
lemma split_intercalate {pieces : List (List α)} (hne : pieces ≠ [])
    (h : ∀ p ∈ pieces, sep ∉ p) :
    split sep (List.intercalate [sep] pieces) = pieces := by
  induction pieces with
  | nil => exact absurd rfl hne
  | cons p pieces ih =>
      have hp : sep ∉ p := h p (by simp)
      cases pieces with
      | nil => simpa [List.intercalate] using split_eq_singleton hp
      | cons q pieces =>
          have hrest := ih (by simp) fun r hr => h r (by simp [hr])
          have hcons : List.intercalate [sep] (p :: q :: pieces) =
              p ++ sep :: List.intercalate [sep] (q :: pieces) := by
            simp [List.intercalate, List.intersperse]
          rw [hcons, split_append_sep hp, hrest]

/-- The pieces of a text, joined, are the text. -/
lemma intercalate_split (sep : α) (cs : List α) :
    List.intercalate [sep] (split sep cs) = cs := by
  induction cs with
  | nil => rfl
  | cons c cs ih =>
      obtain ⟨p, ps, hs⟩ := List.exists_cons_of_ne_nil (split_ne_nil sep cs)
      rw [hs] at ih
      by_cases hc : c = sep
      · rw [split, if_pos hc, hs, List.intercalate_cons_cons, ih, hc]
        rfl
      · rw [split, if_neg hc, hs, List.intercalate_cons_cons_left, ih]

end Rows

/-! ### Texts -/

variable {sep : Code}

lemma append_assoc (s t u : Text) : s ++ t ++ u = s ++ (t ++ u) :=
  ext (List.append_assoc _ _ _)

lemma empty_append (t : Text) : ofString "" ++ t = t := ext rfl

lemma append_right_inj (s : Text) {t u : Text} : s ++ t = s ++ u ↔ t = u :=
  ⟨fun h => ext (List.append_cancel_left (congrArg toList h)),
    fun h => by rw [h]⟩

lemma append_left_inj (s : Text) {t u : Text} : t ++ s = u ++ s ↔ t = u :=
  ⟨fun h => ext (List.append_cancel_right (congrArg toList h)),
    fun h => by rw [h]⟩

/-- Two texts together are empty only if the first one is. -/
lemma append_ne_empty {s : Text} (h : s ≠ ("" : Text)) (t : Text) :
    s ++ t ≠ ("" : Text) := fun hempty =>
  h (ext (List.append_eq_nil_iff.mp (congrArg toList hempty)).1)

/-- The pieces of two texts with a separator between them are those of the
one and those of the other. -/
lemma splitText_append {s : Text} (hs : s.toList = [sep])
    (t u : Text) :
    splitText sep (t ++ s ++ u) = splitText sep t ++ splitText sep u := by
  rw [splitText, toList_append, toList_append, hs,
    List.append_assoc, List.singleton_append, split_append, List.map_append]
  rfl

/-- The pieces of a text are never none at all. -/
lemma splitText_ne_nil (sep : Code) (s : Text) : splitText sep s ≠ [] := by
  rw [splitText, Ne, List.map_eq_nil_iff]
  exact split_ne_nil _ _

/-- No piece holds the separator. -/
lemma not_mem_of_mem_splitText {s piece : Text}
    (h : piece ∈ splitText sep s) : sep ∉ piece.toList := by
  obtain ⟨cs, hcs, rfl⟩ := List.mem_map.mp h
  exact not_mem_of_mem_split hcs

/-- A text without the separator is one piece. -/
lemma splitText_eq_singleton {s : Text} (h : sep ∉ s.toList) :
    splitText sep s = [s] := by
  rw [splitText, split_eq_singleton h, List.map_singleton]

/-- The characters of a joined text. -/
lemma toList_join (s : Text) (pieces : List Text) :
    (join s pieces).toList =
      List.intercalate s.toList (pieces.map Text.toList) := by
  induction pieces with
  | nil => rfl
  | cons p pieces ih =>
      cases pieces with
      | nil => simp [join, List.intercalate]
      | cons q pieces =>
          rw [join, toList_append, toList_append, ih]
          simp [List.intercalate]

/-- The pieces of a text, joined, are the text. -/
lemma join_splitText {s : Text} (hs : s.toList = [sep]) (t : Text) :
    join s (splitText sep t) = t := by
  apply ext
  rw [toList_join, hs, splitText, List.map_map]
  simp [Function.comp_def, intercalate_split]

/-- A text joined from pieces that do not hold the separator determines
them. -/
lemma join_inj {s : Text} (hs : s.toList = [sep]) {ps qs : List Text}
    (hps : ps ≠ []) (hqs : qs ≠ []) (hp : ∀ p ∈ ps, sep ∉ p.toList)
    (hq : ∀ q ∈ qs, sep ∉ q.toList) (h : join s ps = join s qs) :
    ps = qs := by
  have hl := congrArg (fun t => split sep t.toList) h
  simp only [toList_join, hs] at hl
  rw [split_intercalate (by simpa using hps) (by simpa using hp),
    split_intercalate (by simpa using hqs) (by simpa using hq)] at hl
  exact List.map_injective_iff.mpr (fun _ _ h => ext h) hl

/-- One piece before others. -/
lemma join_cons (s p : Text) {ps : List Text} (h : ps ≠ []) :
    join s (p :: ps) = p ++ s ++ join s ps := by
  obtain ⟨q, qs, rfl⟩ := List.exists_cons_of_ne_nil h
  rw [join]

/-- Pieces before others. -/
lemma join_append (s : Text) {ps qs : List Text} (hps : ps ≠ [])
    (hqs : qs ≠ []) : join s (ps ++ qs) = join s ps ++ s ++ join s qs := by
  induction ps with
  | nil => exact absurd rfl hps
  | cons p ps ih =>
      cases ps with
      | nil => rw [List.singleton_append, join_cons s p hqs, join]
      | cons q ps =>
          have hrest := ih (by simp)
          rw [List.cons_append, join_cons s p (by simp), hrest,
            join_cons s p (by simp)]
          simp only [append_assoc]

/-- Pieces without surrogates make a text without them. -/
lemma isPlain_join {s : Text} {ps : List Text} (hs : s.isPlain)
    (h : ∀ p ∈ ps, p.isPlain) : (join s ps).isPlain := by
  induction ps with
  | nil => rfl
  | cons p ps ih =>
      obtain ⟨hp, hps⟩ := List.forall_mem_cons.mp h
      cases ps with
      | nil => exact hp
      | cons q ps =>
          rw [join_cons s p (by simp), isPlain_append, isPlain_append]
          exact ⟨⟨hp, hs⟩, ih hps⟩

/-- Texts that were joined themselves are joined as one. -/
lemma join_map_join (s : Text) {pss : List (List Text)}
    (h : ∀ ps ∈ pss, ps ≠ []) :
    join s (pss.map (join s)) = join s pss.flatten := by
  induction pss with
  | nil => rfl
  | cons ps pss ih =>
      obtain ⟨hps, hpss⟩ := List.forall_mem_cons.mp h
      cases pss with
      | nil => simp [join]
      | cons qs pss =>
          have hne : (qs :: pss).flatten ≠ [] := by
            simp [hpss qs List.mem_cons_self]
          rw [List.map_cons, join_cons s _ (by simp), ih hpss,
            ← join_append s hps hne, ← List.flatten_cons]

/-- A text joined from texts that are not empty is empty only if it was
joined from nothing. -/
lemma join_eq_empty_iff (s : Text) {ps : List Text}
    (h : ∀ p ∈ ps, p ≠ ("" : Text)) : join s ps = ("" : Text) ↔ ps = [] := by
  refine ⟨fun hempty => ?_, fun hnil => by rw [hnil, join]⟩
  cases ps with
  | nil => rfl
  | cons p ps =>
      have hp : p ≠ ("" : Text) := h p List.mem_cons_self
      cases ps with
      | nil => exact absurd hempty hp
      | cons q ps =>
          rw [join_cons s p (by simp), append_assoc] at hempty
          exact absurd hempty (append_ne_empty hp _)

/-- Texts that were joined themselves are joined as one, and those that
were joined from nothing can be left out. -/
lemma join_filter_map_join (s : Text) {pss : List (List Text)}
    (h : ∀ ps ∈ pss, ∀ p ∈ ps, p ≠ ("" : Text)) :
    join s ((pss.map (join s)).filter (!·.isEmpty)) =
      join s pss.flatten := by
  have hfilter : (pss.map (join s)).filter (!·.isEmpty) =
      (pss.filter (!·.isEmpty)).map (join s) := by
    rw [List.filter_map]
    refine congrArg _ (List.filter_congr fun ps hps => ?_)
    rw [Function.comp_apply, Bool.not_inj_iff, Bool.eq_iff_iff,
      isEmpty_iff, join_eq_empty_iff s (h ps hps), List.isEmpty_iff]
  rw [hfilter, join_map_join s fun ps hps => by
      simpa using (List.mem_filter.mp hps).2,
    List.flatten_filter_not_isEmpty]

end ApiBook.Text
