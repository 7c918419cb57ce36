/-
Which definitions can be encoded: those without surrogates.

* `Definition.texts`: the texts that a definition mentions;
* `isPlain_definition`, `isPlain_definitions`: a surrogate in the value of a
  definition is one of a text, as the names of the parts have none;
* `encode?_eq_none_iff`, `encode?_of_isPlain`: there is a text of definitions
  unless one of their texts has a surrogate.
-/
import ApiBook.Proofs.Record.Sheet
import ApiBook.Record.Document

namespace ApiBook.Record

/-! ### Texts -/

/-- The texts that a parameter mentions. -/
def Argument.texts (a : Argument) : List Text :=
  a.name.toList ++ a.view :: a.description.toList ++ a.rawDescription.toList

/-- The texts that a result mentions. -/
def Return.texts (r : Return) : List Text :=
  r.name.toList ++ r.view :: r.description.toList ++ r.rawDescription.toList

/-- The texts that a refinement mentions. -/
def Extend.texts (e : Extend) : List Text :=
  e.view :: e.description.toList ++ e.rawDescription.toList
    ++ (e.args.getD []).flatMap Argument.texts
    ++ (e.returns.getD []).flatMap Return.texts

/-- The texts that a place mentions. -/
def Define.texts (d : Define) : List Text :=
  d.file :: d.refinements.flatMap Extend.texts

/-- The texts that a member mentions. -/
def Field.texts (f : Field) : List Text :=
  f.name :: f.file :: f.description.toList ++ f.rawDescription.toList
    ++ f.visible.toList ++ f.refinements.flatMap Extend.texts

/-- The texts that a definition mentions. -/
def Definition.texts (d : Definition) : List Text :=
  d.name :: d.description.toList ++ d.rawDescription.toList
    ++ d.defines.flatMap Define.texts ++ d.fields.flatMap Field.texts

/-! ### Values of parts -/

/-- No surrogate is in the value of a sheet if none is in those of its
parts. -/
lemma Sheet.isPlain_members {s : Sheet} :
    (Value.object s.members).isPlain ↔ ∀ p ∈ s, ∀ v ∈ p.2, v.isPlain := by
  rw [Value.isPlain, Value.areMembersPlain_iff]
  constructor
  · rintro h ⟨k, o⟩ hp v rfl
    exact (h (k.exported, v) (mem_members.mpr ⟨k, hp, rfl⟩)).2
  · rintro h ⟨name, v⟩ hm
    obtain ⟨j, hj, rfl⟩ := mem_members.mp hm
    exact ⟨Text.isPlain_ofString _, h _ hj v rfl⟩

section Parts

variable {α : Type} {write : α → Value} {texts : α → List Text}

/-- A part that has a value. -/
lemma isPlain_some {v : Value} : (∀ w ∈ some v, w.isPlain) ↔ v.isPlain := by
  simp

/-- A whole number has no surrogates. -/
lemma isPlain_int (i : ℤ) : (Value.int i).isPlain := rfl

/-- Nor has a kind. -/
lemma isPlain_kind (k : Kind) : (Value.text k.spelling).isPlain :=
  Text.isPlain_ofString _

/-- A text has those that it has. -/
lemma isPlain_text {t : Text} : (Value.text t).isPlain ↔ t.isPlain :=
  Iff.rfl

/-- So has a text that may be left out. -/
lemma isPlain_text? {o : Option Text} :
    (∀ w ∈ o.map Value.text, w.isPlain) ↔ ∀ t ∈ o.toList, t.isPlain := by
  cases o <;> simp [isPlain_text]

/-- A list has those of its items. -/
lemma isPlain_list (h : ∀ a, (write a).isPlain ↔ ∀ t ∈ texts a, t.isPlain)
    {as : List α} : (Value.list (as.map write)).isPlain ↔
      ∀ t ∈ as.flatMap texts, t.isPlain := by
  rw [Value.isPlain, Value.areItemsPlain_iff, List.forall_mem_map]
  simp only [h, List.mem_flatMap, forall_exists_index, and_imp]
  exact ⟨fun hall t a ha ht => hall a ha t ht, fun hall a ha t ht =>
    hall t a ha ht⟩

/-- So has a list that may be left out. -/
lemma isPlain_list? (h : ∀ a, (write a).isPlain ↔ ∀ t ∈ texts a, t.isPlain)
    {as : Option (List α)} :
    (∀ w ∈ as.map fun as => Value.list (as.map write), w.isPlain) ↔
      ∀ t ∈ (as.getD []).flatMap texts, t.isPlain := by
  cases as with
  | none => simp
  | some as =>
    rw [Option.map_some, isPlain_some, isPlain_list h, Option.getD_some]

end Parts

/-! ### Values of records -/

/-- The surrogates in the value of a parameter are those of its texts. -/
lemma isPlain_argument (a : Argument) :
    (Naming.exported.argument a).isPlain ↔ ∀ t ∈ a.texts, t.isPlain := by
  rw [exported_argument, Sheet.isPlain_members]
  simp only [argumentSheet, List.forall_mem_cons, isPlain_some, isPlain_int,
    isPlain_kind, isPlain_text, isPlain_text?, Argument.texts,
    List.forall_mem_append, true_and]
  tauto

/-- So are those of a result. -/
lemma isPlain_result (r : Return) :
    (Naming.exported.result r).isPlain ↔ ∀ t ∈ r.texts, t.isPlain := by
  rw [exported_result, Sheet.isPlain_members]
  simp only [resultSheet, List.forall_mem_cons, isPlain_some, isPlain_kind,
    isPlain_text, isPlain_text?, Return.texts, List.forall_mem_append,
    true_and]
  tauto

/-- So are those of a refinement. -/
lemma isPlain_refinement (e : Extend) :
    (Naming.exported.refinement e).isPlain ↔ ∀ t ∈ e.texts, t.isPlain := by
  rw [exported_refinement, Sheet.isPlain_members]
  simp only [refinementSheet, List.forall_mem_cons, isPlain_some, isPlain_int,
    isPlain_kind, isPlain_text, isPlain_text?, isPlain_list? isPlain_argument,
    isPlain_list? isPlain_result, Extend.texts, List.forall_mem_append,
    true_and]
  tauto

/-- So are those of a place. -/
lemma isPlain_define (d : Define) :
    (Naming.exported.define d).isPlain ↔ ∀ t ∈ d.texts, t.isPlain := by
  rw [exported_define, Sheet.isPlain_members]
  simp only [defineSheet, List.forall_mem_cons, isPlain_some, isPlain_int,
    isPlain_kind, isPlain_text, isPlain_list isPlain_refinement, Define.texts,
    true_and]
  tauto

/-- So are those of a member. -/
lemma isPlain_field (f : Field) :
    (Naming.exported.field f).isPlain ↔ ∀ t ∈ f.texts, t.isPlain := by
  rw [exported_field, Sheet.isPlain_members]
  simp only [fieldSheet, List.forall_mem_cons, isPlain_some, isPlain_int,
    isPlain_kind, isPlain_text, isPlain_text?,
    isPlain_list isPlain_refinement, Field.texts, List.forall_mem_append,
    true_and]
  tauto

/-- So are those of a definition. -/
lemma isPlain_definition (d : Definition) :
    (Naming.exported.definition d).isPlain ↔ ∀ t ∈ d.texts, t.isPlain := by
  rw [exported_definition, Sheet.isPlain_members]
  simp only [definitionSheet, List.forall_mem_cons, isPlain_some,
    isPlain_kind, isPlain_text, isPlain_text?, isPlain_list isPlain_define,
    isPlain_list isPlain_field, Definition.texts, List.forall_mem_append,
    true_and]
  tauto

/-- So are those of a document. -/
theorem isPlain_definitions (ds : List Definition) :
    (Naming.exported.definitions ds).isPlain ↔
      ∀ d ∈ ds, ∀ t ∈ d.texts, t.isPlain := by
  rw [Naming.definitions, isPlain_list isPlain_definition]
  simp only [List.mem_flatMap, forall_exists_index, and_imp]
  exact ⟨fun h d hd t ht => h t d hd ht, fun h t d hd ht => h d hd t ht⟩

/-! ### Encoding -/

/-- Definitions without surrogates have a text, which is that of their
value. -/
lemma encode?_of_isPlain (style : Json.Style) {ds : List Definition}
    (h : ∀ d ∈ ds, ∀ t ∈ d.texts, t.isPlain) :
    encode? style ds
      = some (Json.print style (Naming.exported.definitions ds)) := by
  rw [encode?, if_pos ((isPlain_definitions ds).mpr h)]

/-- Definitions have no text if there is a surrogate in one of theirs. -/
theorem encode?_eq_none_iff (style : Json.Style) {ds : List Definition} :
    encode? style ds = none ↔ ∃ d ∈ ds, ∃ t ∈ d.texts, ¬ t.isPlain := by
  have hplain := isPlain_definitions ds
  rw [encode?]
  split
  next h => simpa using hplain.mp h
  next h => simpa [hplain] using h

end ApiBook.Record
