/-
Values are read as the records they hold, and nothing else is read.

* `Checked.Yields`: a check that comes out well, part by part;
* `Reads`: a check lets through the values of a form, as what they hold;
* `reads_integer`, `reads_text`, `reads_kind`, `Reads.list`,
  `Reads.objects`: the forms of values;
* `yields_required`, `yields_optional`, `yields_spanned`: the parts of
  records;
* `reads_argument`, `reads_return`, `reads_extend`, `reads_define`,
  `reads_field`, `reads_definition`: the records;
* `ofValue_eq_ok_iff`: **documents are read as what they hold**.
-/
import ApiBook.Proofs.Record.Refusal
import ApiBook.Proofs.Record.RoundTrip
import ApiBook.Proofs.Record.Schema
import ApiBook.Record.Document

namespace ApiBook.Record

variable {α β : Type}

/-! ### Checks that come out well -/

namespace Checked

/-- A check comes out well, and its result has a property. -/
def Yields (c : Checked α) (r : α → Prop) : Prop :=
  ∃ a, c = valid a ∧ r a

/-- A violation is not a result. -/
lemma fail_ne_valid (c : Cause) (a : α) : fail c ≠ valid a := by
  simp [fail]

/-- A check that comes out as a result. -/
lemma yields_eq {c : Checked α} {a : α} :
    c.Yields (· = a) ↔ c = valid a := by
  simp [Yields]

/-- What fits comes out as itself. -/
lemma yields_valid {a : α} {r : α → Prop} :
    (valid a).Yields r ↔ r a := by
  simp [Yields]

/-- What does not fit comes out as nothing. -/
lemma not_yields_invalid {vs : List Violation} {r : α → Prop} :
    ¬ (invalid vs).Yields r :=
  fun ⟨_, h, _⟩ => nomatch h

/-- A function of a part comes out well where the part does. -/
lemma yields_map {f : α → β} {c : Checked α} {r : β → Prop} :
    (f <$> c).Yields r ↔ c.Yields fun a => r (f a) := by
  cases c with
  | valid a => simp only [map_valid, yields_valid]
  | invalid vs => exact iff_of_false not_yields_invalid not_yields_invalid

/-- Two parts come out well together where each of them does. -/
lemma yields_seq {cf : Checked (α → β)} {c : Checked α} {r : β → Prop} :
    (cf <*> c).Yields r ↔ cf.Yields fun f => c.Yields fun a => r (f a) := by
  cases cf with
  | valid f =>
      rw [yields_valid]
      cases c with
      | valid a => simp only [seq_valid, yields_valid]
      | invalid vs =>
          exact iff_of_false not_yields_invalid not_yields_invalid
  | invalid vs => exact iff_of_false not_yields_invalid not_yields_invalid

/-- A last check comes out well where the parts do, and it does. -/
lemma yields_join {c : Checked (Checked α)} {r : α → Prop} :
    c.join.Yields r ↔ c.Yields fun d => d.Yields r := by
  cases c with
  | valid d => rw [join_valid, yields_valid]
  | invalid vs => exact iff_of_false not_yields_invalid not_yields_invalid

/-- A part comes out well from wherever it is seen. -/
lemma under_eq_valid {s : Step} {c : Checked α} {a : α} :
    c.under s = valid a ↔ c = valid a := by
  cases c <;> simp [under]

end Checked

open Checked

/-- A check lets through the values of a form, as what they hold. -/
def Reads (read : Value → Checked α) (R : Value → α → Prop) : Prop :=
  ∀ v a, read v = .valid a ↔ R v a

section Forms

variable {read : Value → Checked α} {R : Value → α → Prop}

/-- Whole numbers are the values that count as them. -/
lemma reads_integer : Reads readInteger CountsAs := by
  intro v i
  constructor
  · intro h
    cases v with
    | null => exact absurd h (fail_ne_valid _ _)
    | list vs => exact absurd h (fail_ne_valid _ _)
    | object ms => exact absurd h (fail_ne_valid _ _)
    | bool b =>
        cases b with
        | true => cases h; exact .truth
        | false => cases h; exact .falsity
    | number n =>
        cases n with
        | whole j => cases h; exact .whole _
        | float x =>
            rw [readInteger] at h
            split at h
            · exact absurd h (fail_ne_valid _ _)
            split at h
            · exact absurd h (fail_ne_valid _ _)
            split at h
            · cases h; exact .float ‹_› ‹_›
            · exact absurd h (fail_ne_valid _ _)
    | text s =>
        rw [readInteger] at h
        split at h
        · exact absurd h (fail_ne_valid _ _)
        next cs hcs =>
          obtain rfl := Text.chars?_eq_some_iff.mp hcs
          split at h
          · cases h; exact .text ‹_›
          all_goals exact absurd h (fail_ne_valid _ _)
  · rintro (_ | _ | _ | @⟨x, i, hx, hi⟩ | @⟨s, i, hs⟩)
    · rfl
    · rfl
    · rfl
    · -- a number that is equal to a whole one is finite
      have hfinite : x.isFinite := by
        cases x with
        | finite => rfl
        | _ => exact absurd hx (by simp [Binary64.toInt?])
      simp only [readInteger, hfinite, hx, hi, Bool.not_true,
        Bool.false_eq_true, if_false, if_true]
    · simp only [readInteger, Text.chars?_ofChars, hs]

/-- Offsets are the values that count as them. -/
lemma reads_offset : Reads readOffset OffsetOf := by
  intro v n
  rw [readOffset, ← yields_eq, yields_join, yields_map, OffsetOf,
    ← reads_integer]
  constructor
  · rintro ⟨i, hi, m, hm, rfl⟩
    rw [toOffset] at hm
    split at hm
    · cases hm
      rw [hi, Int.toNat_of_nonneg ‹_›]
    · exact absurd hm (fail_ne_valid _ _)
  · intro h
    exact ⟨n, h, n, if_pos (Int.natCast_nonneg n), rfl⟩

/-- Texts are read. -/
lemma reads_text : Reads readText TextOf := by
  intro v s
  cases v with
  | text t => simp [readText, TextOf]
  | _ => simp [readText, TextOf, fail_ne_valid]

/-- A kind has one spelling, and no other kind has it. -/
lemma Kind.ofSpelling?_eq_some {s : Text} {k : Kind} :
    Kind.ofSpelling? s = some k ↔ s = k.spelling := by
  constructor
  · intro h
    have := List.find?_some h
    exact (of_decide_eq_true this).symm
  · rintro rfl
    exact Kind.ofSpelling?_spelling k

/-- Kinds are read from their spellings. -/
lemma reads_kind : Reads readKind KindOf := by
  intro v k
  have hkind : readKind v = .valid k ↔ kindOf? v = some k := by
    unfold readKind
    split <;> simp_all [fail_ne_valid]
  rw [hkind, KindOf]
  cases v with
  | text s => simp [kindOf?, Kind.ofSpelling?_eq_some]
  | _ => simp [kindOf?]

/-- Items are read one by one. -/
lemma items_eq_valid (h : Reads read R) {vs : List Value} {as : List α} :
    items read vs = .valid as ↔ List.Forall₂ R vs as := by
  have hfrom : ∀ i, itemsFrom read i vs = .valid as ↔
      List.Forall₂ R vs as := by
    induction vs generalizing as with
    | nil =>
        intro i
        rw [itemsFrom, valid.injEq, List.forall₂_nil_left_iff]
        exact eq_comm
    | cons v vs ih =>
        intro i
        rw [itemsFrom, ← yields_eq, yields_seq, yields_map]
        simp only [Yields, under_eq_valid, h v, ih]
        constructor
        · rintro ⟨b, hb, bs, hbs, rfl⟩
          exact .cons hb hbs
        · rintro (_ | @⟨_, b, _, bs, hb, hbs⟩)
          exact ⟨b, hb, bs, hbs, rfl⟩
  exact hfrom 0

/-- Lists are read item by item. -/
lemma Reads.list (h : Reads read R) : Reads (readList read) (ListOf R) := by
  intro v as
  cases v with
  | list vs => simp [readList, ListOf, items_eq_valid h]
  | _ => simp [readList, ListOf, fail_ne_valid]

/-- What is read as null for nothing, and as a form otherwise. -/
lemma Reads.orNull {read? : Value → Checked (Option α)} (h : Reads read R)
    (hnull : read? .null = .valid none) (hnot : ∀ a, ¬ R .null a)
    (hgiven : ∀ v, v ≠ .null → read? v = some <$> read v) :
    Reads read? (OrNull R) := by
  intro v o
  constructor
  · intro ho
    by_cases hv : v = .null
    · subst hv
      rw [hnull] at ho
      cases ho
      exact .null
    · rw [hgiven v hv, ← yields_eq, yields_map] at ho
      obtain ⟨a, ha, rfl⟩ := ho
      exact .given ((h v a).mp ha)
  · rintro (_ | @⟨_, a, ha⟩)
    · exact hnull
    · have hv : v ≠ .null := fun hv => hnot a (hv ▸ ha)
      rw [hgiven v hv, (h v a).mpr ha, map_valid]

/-- A text may be null. -/
lemma reads_text? : Reads readText? (OrNull TextOf) :=
  reads_text.orNull rfl (fun _ => nofun) fun v hv => by
    cases v with
    | null => exact absurd rfl hv
    | _ => rfl

/-- A list may be null. -/
lemma Reads.list? (h : Reads read R) :
    Reads (readList? read) (OrNull (ListOf R)) :=
  h.list.orNull rfl (fun _ ⟨_, hv, _⟩ => nomatch hv) fun v hv => by
    cases v with
    | null => exact absurd rfl hv
    | _ => rfl

/-- A list of objects is read in any of its forms. -/
lemma Reads.objects (h : Reads read R) :
    Reads (readObjects read) (OneOrMany R) := by
  intro v as
  constructor
  · intro hread
    cases v with
    | null => cases hread; exact .null
    | object ms =>
        rcases (items_eq_valid h).mp hread with _ | ⟨ha, _ | _⟩
        exact .one ha
    | list vs => exact .many ((items_eq_valid h).mp hread)
    | _ => exact absurd hread (fail_ne_valid _ _)
  · rintro (_ | @⟨ms, a, ha⟩ | @⟨vs, as, has⟩)
    · rfl
    · exact (items_eq_valid h).mpr (.cons ha .nil)
    · exact (items_eq_valid h).mpr has

/-- A record is an object. -/
lemma reads_record {name : String} {read : Members → Checked α}
    {R : Members → α → Prop}
    (h : ∀ ms a, read ms = .valid a ↔ R ms a) :
    Reads (readRecord name read) (ObjectOf R) := by
  intro v a
  cases v with
  | object ms => simp [readRecord, ObjectOf, h]
  | _ => simp [readRecord, ObjectOf, fail_ne_valid]

end Forms

/-! ### Parts that come out well -/

section Parts

variable {k : Key} {read : Value → Checked α} {R : Value → α → Prop}
  {ms : Members} {r : α → Prop}

/-- A part has the value that it is found with. -/
lemma Key.finds_iff {v : Value} :
    k.Finds ms v ↔ (k.find? ms).map Prod.snd = some v := by
  rw [Key.Finds, Key.find?]
  cases ms.get? k.exported with
  | some w => simp
  | none => cases ms.get? k.long <;> simp

/-- A part that is lacking is not found. -/
lemma Key.lacks_iff : k.Lacks ms ↔ k.find? ms = none := by
  rw [Key.Lacks, Key.find?]
  cases ms.get? k.exported with
  | some w => simp
  | none => cases ms.get? k.long <;> simp

/-- A part comes out well where it has to be there, and is. -/
lemma yields_required (h : Reads read R) :
    (required k read ms).Yields r ↔ ∃ a, Has k R ms a ∧ r a := by
  simp only [Has, Key.finds_iff, required]
  cases k.find? ms with
  | none => simp [Yields, under_eq_valid, fail_ne_valid]
  | some p => simp [Yields, under_eq_valid, h p.2]

/-- A part comes out well where it may be left out, and is or is not. -/
lemma yields_optional {absent : α} (h : Reads read R) :
    (optional k absent read ms).Yields r ↔
      ∃ a, May k absent R ms a ∧ r a := by
  simp only [May, Has, Key.finds_iff, Key.lacks_iff, optional]
  cases k.find? ms with
  | none => simp [Yields]
  | some p => simp [Yields, under_eq_valid, h p.2]

/-- A last check comes out well where the span is in order. -/
lemma yields_spanned {start finish : ℕ} {make : Span → α} :
    (spanned start finish make).Yields r ↔
      ∃ h : start ≤ finish, r (make ⟨start, finish, h⟩) := by
  rw [spanned]
  split
  · rename_i h
    simp [yields_valid, h]
  · rename_i h
    exact iff_of_false not_yields_invalid fun hr => h hr.fst

end Parts

/-! ### Records that are read -/

/-- Objects are read as the parameters they hold. -/
lemma reads_argument : Reads readArgument (ObjectOf ArgumentOf) := by
  refine reads_record fun ms a => ?_
  rw [← yields_eq]
  simp only [yields_join, yields_seq, yields_map, yields_spanned,
    yields_required reads_offset, yields_required reads_kind,
    yields_required reads_text, yields_optional reads_text?]
  constructor
  · rintro ⟨start, hstart, finish, hfinish, name, hname, kind, hkind, view,
      hview, description, hdescription, raw, hraw, h, rfl⟩
    exact ⟨⟨start, finish, h, hstart, hfinish, rfl⟩, hname, hkind, hview,
      hdescription, hraw⟩
  · rintro ⟨⟨start, finish, h, hstart, hfinish, hspan⟩, hname, hkind,
      hview, hdescription, hraw⟩
    exact ⟨start, hstart, finish, hfinish, _, hname, _, hkind, _, hview, _,
      hdescription, _, hraw, h, by rw [← hspan]⟩

/-- Objects are read as the results they hold. -/
lemma reads_return : Reads readReturn (ObjectOf ReturnOf) := by
  refine reads_record fun ms r => ?_
  rw [← yields_eq]
  simp only [yields_seq, yields_map, yields_required reads_kind,
    yields_required reads_text, yields_optional reads_text?]
  constructor
  · rintro ⟨name, hname, kind, hkind, view, hview, description,
      hdescription, raw, hraw, rfl⟩
    exact ⟨hname, hkind, hview, hdescription, hraw⟩
  · rintro ⟨hname, hkind, hview, hdescription, hraw⟩
    exact ⟨_, hname, _, hkind, _, hview, _, hdescription, _, hraw, rfl⟩

/-- Objects are read as the refinements they hold. -/
lemma reads_extend : Reads readExtend (ObjectOf ExtendOf) := by
  refine reads_record fun ms e => ?_
  rw [← yields_eq]
  simp only [yields_join, yields_seq, yields_map, yields_spanned,
    yields_required reads_offset, yields_required reads_kind,
    yields_required reads_text, yields_optional reads_text?,
    yields_optional reads_argument.list?, yields_optional reads_return.list?]
  constructor
  · rintro ⟨start, hstart, finish, hfinish, kind, hkind, view, hview,
      description, hdescription, raw, hraw, args, hargs, returns, hreturns,
      h, rfl⟩
    exact ⟨⟨start, finish, h, hstart, hfinish, rfl⟩, hkind, hview,
      hdescription, hraw, hargs, hreturns⟩
  · rintro ⟨⟨start, finish, h, hstart, hfinish, hspan⟩, hkind, hview,
      hdescription, hraw, hargs, hreturns⟩
    exact ⟨start, hstart, finish, hfinish, _, hkind, _, hview, _,
      hdescription, _, hraw, _, hargs, _, hreturns, h, by rw [← hspan]⟩

/-- Objects are read as the places they hold. -/
lemma reads_define : Reads readDefine (ObjectOf DefineOf) := by
  refine reads_record fun ms d => ?_
  rw [← yields_eq]
  simp only [yields_join, yields_seq, yields_map, yields_spanned,
    yields_required reads_offset, yields_required reads_kind,
    yields_required reads_text, yields_optional reads_extend.objects]
  constructor
  · rintro ⟨start, hstart, finish, hfinish, kind, hkind, file, hfile,
      refinements, hrefinements, h, rfl⟩
    exact ⟨⟨start, finish, h, hstart, hfinish, rfl⟩, hkind, hfile,
      hrefinements⟩
  · rintro ⟨⟨start, finish, h, hstart, hfinish, hspan⟩, hkind, hfile,
      hrefinements⟩
    exact ⟨start, hstart, finish, hfinish, _, hkind, _, hfile, _,
      hrefinements, h, by rw [← hspan]⟩

/-- Objects are read as the members of classes they hold. -/
lemma reads_field : Reads readField (ObjectOf FieldOf) := by
  refine reads_record fun ms f => ?_
  rw [← yields_eq]
  simp only [yields_join, yields_seq, yields_map, yields_spanned,
    yields_required reads_offset, yields_required reads_kind,
    yields_required reads_text, yields_optional reads_text?,
    yields_optional reads_extend.objects]
  constructor
  · rintro ⟨start, hstart, finish, hfinish, name, hname, kind, hkind, file,
      hfile, description, hdescription, raw, hraw, visible, hvisible,
      refinements, hrefinements, h, rfl⟩
    exact ⟨⟨start, finish, h, hstart, hfinish, rfl⟩, hname, hkind, hfile,
      hdescription, hraw, hvisible, hrefinements⟩
  · rintro ⟨⟨start, finish, h, hstart, hfinish, hspan⟩, hname, hkind,
      hfile, hdescription, hraw, hvisible, hrefinements⟩
    exact ⟨start, hstart, finish, hfinish, _, hname, _, hkind, _, hfile, _,
      hdescription, _, hraw, _, hvisible, _, hrefinements, h,
      by rw [← hspan]⟩

/-- Objects are read as the definitions they hold. -/
lemma reads_definition : Reads readDefinition (ObjectOf DefinitionOf) := by
  refine reads_record fun ms d => ?_
  rw [← yields_eq]
  simp only [yields_seq, yields_map, yields_required reads_kind,
    yields_required reads_text, yields_optional reads_text?,
    yields_optional reads_define.list, yields_optional reads_field.list]
  constructor
  · rintro ⟨name, hname, kind, hkind, description, hdescription, raw, hraw,
      defines, hdefines, fields, hfields, rfl⟩
    exact ⟨hname, hkind, hdescription, hraw, hdefines, hfields⟩
  · rintro ⟨hname, hkind, hdescription, hraw, hdefines, hfields⟩
    exact ⟨_, hname, _, hkind, _, hdescription, _, hraw, _, hdefines, _,
      hfields, rfl⟩

/-- Documents are read as what they hold. -/
lemma reads_definitions : Reads readDefinitions DocumentOf :=
  reads_definition.list

/-! ### Documents -/

/-- **Documents are read as what they hold.** A value is read as a list of
definitions exactly if it is a list of objects, each of which holds the
definition in its place, with all the records inside it. A value that
holds no such list is refused as a whole, whatever is wrong with it and
wherever, and at least one violation is named. -/
theorem ofValue_eq_ok_iff (v : Value) :
    (∀ ds, ofValue v = .ok ds ↔ DocumentOf v ds) ∧
      ((¬ ∃ ds, DocumentOf v ds) →
        ∃ vs, vs ≠ [] ∧ ofValue v = .error (.invalid .documentation vs)) := by
  have htells := speaks_definitions v
  cases hread : readDefinitions v with
  | valid ds =>
      have hdocument := (reads_definitions v ds).mp hread
      refine ⟨fun ds' => ?_, fun h => absurd ⟨ds, hdocument⟩ h⟩
      rw [← reads_definitions v, hread, ofValue, hread, outcome,
        Except.ok.injEq, valid.injEq]
  | invalid vs =>
      rw [hread] at htells
      refine ⟨fun ds => ?_, fun _ => ⟨vs, htells, ?_⟩⟩
      · rw [← reads_definitions v, hread, ofValue, hread, outcome]
        exact iff_of_false nofun nofun
      · rw [ofValue, hread, outcome]

end ApiBook.Record
