/-
What is refused is refused for a reason: no check comes out without a
result and without a violation.

* `Checked.Tells`: a check has a result or at least one violation, and so
  have the checks that are made of it;
* `Speaks`: a check has one or the other, whatever value it is made of;
* `tells_required`, `tells_optional`, `tells_spanned`: the parts of
  records;
* `speaks_definitions`: no list of definitions is refused without a
  reason, nor is any record inside it.
-/
import ApiBook.Record.Decode
import Mathlib.Data.Nat.Notation
import Mathlib.Tactic.Lemma

namespace ApiBook.Record

variable {α β : Type}

/-! ### Checks with a result or a violation -/

namespace Checked

/-- A check has a result, of which something holds, or at least one
violation. -/
def Tells (c : Checked α) (r : α → Prop) : Prop :=
  match c with
  | valid a => r a
  | invalid vs => vs ≠ []

/-- A violation alone is one. -/
lemma tells_fail (c : Cause) (r : α → Prop) : (fail c).Tells r :=
  List.cons_ne_nil _ _

variable {r : β → Prop}

/-- Less may hold of the result. -/
lemma Tells.mono {c : Checked α} {q r : α → Prop} (h : c.Tells q)
    (hqr : ∀ a, q a → r a) : c.Tells r := by
  cases c with
  | valid a => exact hqr a h
  | invalid vs => exact h

/-- Violations that are seen from further out. -/
lemma Tells.under {c : Checked α} {r : α → Prop} (h : c.Tells r)
    (s : Step) : (c.under s).Tells r := by
  cases c with
  | valid a => exact h
  | invalid vs => exact fun hnil => h (List.map_eq_nil_iff.mp hnil)

/-- A function of a part. -/
lemma Tells.map {f : α → β} {c : Checked α}
    (h : c.Tells fun a => r (f a)) : (f <$> c).Tells r := by
  cases c with
  | valid a => exact h
  | invalid vs => exact h

/-- Two parts together: a violation of either of them is one. -/
lemma Tells.seq {cf : Checked (α → β)} {c : Checked α}
    (h : cf.Tells fun f => c.Tells fun a => r (f a)) :
    (cf <*> c).Tells r := by
  cases cf with
  | valid f =>
      cases c with
      | valid a => exact h
      | invalid vs => exact h
  | invalid vs => exact fun hnil => h (List.append_eq_nil_iff.mp hnil).1

/-- A last check. -/
lemma Tells.join {c : Checked (Checked β)}
    (h : c.Tells fun d => d.Tells r) : c.join.Tells r := by
  cases c with
  | valid d => exact h
  | invalid vs => exact h

end Checked

open Checked

/-- Whatever value it is made of, a check has a result or a violation. -/
def Speaks (read : Value → Checked α) : Prop :=
  ∀ v, (read v).Tells fun _ => True

/-! ### Values -/

section Forms

variable {read : Value → Checked α}

/-- The items of a list. -/
lemma tells_items (h : Speaks read) (vs : List Value) :
    (items read vs).Tells fun _ => True := by
  have hfrom : ∀ i, (itemsFrom read i vs).Tells fun _ => True := by
    induction vs with
    | nil => exact fun _ => trivial
    | cons v vs ih =>
        intro i
        exact .seq (.map (((h v).under _).mono fun _ _ =>
          (ih (i + 1)).mono fun _ _ => trivial))
  exact hfrom 0

/-- Whole numbers. -/
lemma speaks_integer : Speaks readInteger := by
  intro v
  unfold readInteger
  split
  · trivial
  · trivial
  · split
    · exact tells_fail _ _
    · split
      · exact tells_fail _ _
      · split
        · trivial
        · exact tells_fail _ _
  · split
    · exact tells_fail _ _
    · split
      · trivial
      · exact tells_fail _ _
      · exact tells_fail _ _
  · exact tells_fail _ _

/-- Offsets. -/
lemma speaks_offset : Speaks readOffset := by
  refine fun v => .join (.map ((speaks_integer v).mono fun i _ => ?_))
  unfold toOffset
  split
  · trivial
  · exact tells_fail _ _

/-- Texts. -/
lemma speaks_text : Speaks readText := by
  intro v
  cases v with
  | text s => trivial
  | _ => exact tells_fail _ _

/-- Texts that may be null. -/
lemma speaks_text? : Speaks readText? := by
  intro v
  cases v with
  | null => trivial
  | _ => exact .map (speaks_text _)

/-- Kinds. -/
lemma speaks_kind : Speaks readKind := by
  intro v
  unfold readKind
  split
  · trivial
  · exact tells_fail _ _
  · exact tells_fail _ _

/-- Lists. -/
lemma Speaks.list (h : Speaks read) : Speaks (readList read) := by
  intro v
  cases v with
  | list vs => exact tells_items h vs
  | _ => exact tells_fail _ _

/-- Lists that may be null. -/
lemma Speaks.list? (h : Speaks read) : Speaks (readList? read) := by
  intro v
  cases v with
  | null => trivial
  | _ => exact .map (h.list _)

/-- Lists of objects in any of their forms. -/
lemma Speaks.objects (h : Speaks read) : Speaks (readObjects read) := by
  intro v
  unfold readObjects
  split
  · exact tells_items h _
  · exact tells_fail _ _

end Forms

/-! ### Parts of records -/

section Parts

variable {k : Key} {read : Value → Checked α} {ms : Members} {r : α → Prop}

/-- A part that has to be there. -/
lemma tells_required (h : Speaks read) (hr : ∀ a, r a) :
    (required k read ms).Tells r := by
  unfold required
  split
  · exact ((h _).under _).mono fun a _ => hr a
  · exact (tells_fail _ _).under _

/-- A part that may be left out. -/
lemma tells_optional {absent : α} (h : Speaks read) (hr : ∀ a, r a) :
    (optional k absent read ms).Tells r := by
  unfold optional
  split
  · exact ((h _).under _).mono fun a _ => hr a
  · exact hr absent

/-- The last check of a record with a span. -/
lemma tells_spanned {start finish : ℕ} {make : Span → α} :
    (spanned start finish make).Tells fun _ => True := by
  unfold spanned
  split
  · trivial
  · exact tells_fail _ _

/-- A record is an object. -/
lemma speaks_record {name : String} {read : Members → Checked α}
    (h : ∀ ms, (read ms).Tells fun _ => True) :
    Speaks (readRecord name read) := by
  intro v
  cases v with
  | object ms => exact h ms
  | _ => exact tells_fail _ _

end Parts

/-! ### Records -/

/-- Function parameters. -/
lemma speaks_argument : Speaks readArgument := by
  refine speaks_record fun ms => ?_
  refine .join (.seq (.seq (.seq (.seq (.seq (.seq (.map ?_)))))))
  exact tells_required speaks_offset fun _ =>
    tells_required speaks_offset fun _ =>
    tells_optional speaks_text? fun _ =>
    tells_required speaks_kind fun _ =>
    tells_required speaks_text fun _ =>
    tells_optional speaks_text? fun _ =>
    tells_optional speaks_text? fun _ => tells_spanned

/-- Function results. -/
lemma speaks_return : Speaks readReturn := by
  refine speaks_record fun ms => ?_
  refine .seq (.seq (.seq (.seq (.map ?_))))
  exact tells_optional speaks_text? fun _ =>
    tells_required speaks_kind fun _ =>
    tells_required speaks_text fun _ =>
    tells_optional speaks_text? fun _ =>
    tells_optional speaks_text? fun _ => trivial

/-- Refinements. -/
lemma speaks_extend : Speaks readExtend := by
  refine speaks_record fun ms => ?_
  refine .join (.seq (.seq (.seq (.seq (.seq (.seq (.seq (.map ?_))))))))
  exact tells_required speaks_offset fun _ =>
    tells_required speaks_offset fun _ =>
    tells_required speaks_kind fun _ =>
    tells_required speaks_text fun _ =>
    tells_optional speaks_text? fun _ =>
    tells_optional speaks_text? fun _ =>
    tells_optional speaks_argument.list? fun _ =>
    tells_optional speaks_return.list? fun _ => tells_spanned

/-- Places of definitions. -/
lemma speaks_define : Speaks readDefine := by
  refine speaks_record fun ms => ?_
  refine .join (.seq (.seq (.seq (.seq (.map ?_)))))
  exact tells_required speaks_offset fun _ =>
    tells_required speaks_offset fun _ =>
    tells_required speaks_kind fun _ =>
    tells_required speaks_text fun _ =>
    tells_optional speaks_extend.objects fun _ => tells_spanned

/-- Members of classes and tables. -/
lemma speaks_field : Speaks readField := by
  refine speaks_record fun ms => ?_
  refine .join (.seq (.seq (.seq (.seq (.seq (.seq (.seq (.seq
    (.map ?_)))))))))
  exact tells_required speaks_offset fun _ =>
    tells_required speaks_offset fun _ =>
    tells_required speaks_text fun _ =>
    tells_required speaks_kind fun _ =>
    tells_required speaks_text fun _ =>
    tells_optional speaks_text? fun _ =>
    tells_optional speaks_text? fun _ =>
    tells_optional speaks_text? fun _ =>
    tells_optional speaks_extend.objects fun _ => tells_spanned

/-- Definitions. -/
lemma speaks_definition : Speaks readDefinition := by
  refine speaks_record fun ms => ?_
  refine .seq (.seq (.seq (.seq (.seq (.map ?_)))))
  exact tells_required speaks_text fun _ =>
    tells_required speaks_kind fun _ =>
    tells_optional speaks_text? fun _ =>
    tells_optional speaks_text? fun _ =>
    tells_optional speaks_define.list fun _ =>
    tells_optional speaks_field.list fun _ => trivial

/-- Lists of definitions. -/
lemma speaks_definitions : Speaks readDefinitions :=
  speaks_definition.list

end ApiBook.Record
