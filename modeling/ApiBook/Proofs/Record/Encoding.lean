/-
Documents in writing are read back.

* `Definition.spans`: the ranges that a definition mentions;
* `writable_definitions`: a document can be told from its text if its
  offsets have few enough digits to be written, and no text of it has a
  surrogate;
* `decode_encode`: such a document is read back from its text, compact or
  indented.
-/
import ApiBook.Proofs.Record.Plain
import ApiBook.Proofs.Record.RoundTrip

namespace ApiBook.Record

open Json (Writable)

/-! ### Ranges -/

/-- The ranges that a refinement mentions. -/
def Extend.spans (e : Extend) : List Span :=
  e.span :: (e.args.getD []).map Argument.span

/-- The ranges that a place mentions. -/
def Define.spans (d : Define) : List Span :=
  d.span :: d.refinements.flatMap Extend.spans

/-- The ranges that a member mentions. -/
def Field.spans (f : Field) : List Span :=
  f.span :: f.refinements.flatMap Extend.spans

/-- The ranges that a definition mentions. -/
def Definition.spans (d : Definition) : List Span :=
  d.defines.flatMap Define.spans ++ d.fields.flatMap Field.spans

/-- Whether the offsets of a range have few enough digits to be
written. -/
def Span.IsWritable (s : Span) : Prop := Number.isWritable s.finish

/-! ### Values of parts -/

section Parts

variable {s : Span} {d : ℕ}

/-- The end of a range can be written. -/
lemma Span.IsWritable.finish (h : s.IsWritable) :
    Writable d (.int s.finish) := .whole h

/-- So can its start, which has no more digits. -/
lemma Span.IsWritable.start (h : s.IsWritable) :
    Writable d (.int s.start) := by
  refine .whole ?_
  rw [IsWritable, Number.isWritable_iff] at h
  rw [Number.isWritable_iff]
  exact lt_of_le_of_lt s.ordered h

/-- A part that has a value can be written if the value can. -/
lemma writable_some {v : Value} (h : Writable d v) :
    ∀ w ∈ some v, Writable d w := by
  rintro w ⟨⟩
  exact h

/-- A text that may be left out can be written. -/
lemma writable_text? (t : Option Text) :
    ∀ w ∈ t.map Value.text, Writable d w := by
  intro w hw
  obtain ⟨x, -, rfl⟩ := Option.map_eq_some_iff.mp hw
  exact .text x

/-- A list can be written if each of its items can. -/
lemma writable_list {α : Type} {write : α → Value} {as : List α}
    (h : ∀ a ∈ as, Writable d (write a)) :
    Writable (d + 1) (.list (as.map write)) := by
  refine .list fun v hv => ?_
  obtain ⟨a, ha, rfl⟩ := List.mem_map.mp hv
  exact h a ha

/-- A list that may be left out can be written if each of its items
can. -/
lemma writable_list? {α : Type} {write : α → Value} {as : Option (List α)}
    (h : ∀ a ∈ as.getD [], Writable d (write a)) :
    ∀ w ∈ as.map fun as => Value.list (as.map write),
      Writable (d + 1) w := by
  intro w hw
  obtain ⟨as, rfl, rfl⟩ := Option.map_eq_some_iff.mp hw
  exact writable_list h

end Parts

/-! ### Values of records -/

/-- A parameter can be written. -/
lemma writable_argument {a : Argument} (h : a.span.IsWritable) :
    Writable 1 (Naming.exported.argument a) := by
  rw [exported_argument]
  refine Sheet.writable_members (clear_argumentSheet a)
    (List.forall_iff_forall_mem.mp ?_)
  exact ⟨writable_some h.start, writable_some h.finish, writable_text? _,
    writable_some (.text _), writable_some (.text _), writable_text? _,
    writable_text? _⟩

/-- A result can be written. -/
lemma writable_result (r : Return) :
    Writable 1 (Naming.exported.result r) := by
  rw [exported_result]
  refine Sheet.writable_members (clear_resultSheet r)
    (List.forall_iff_forall_mem.mp ?_)
  exact ⟨writable_text? _, writable_some (.text _), writable_some (.text _),
    writable_text? _, writable_text? _⟩

/-- A refinement can be written. -/
lemma writable_refinement {e : Extend} (h : ∀ s ∈ e.spans, s.IsWritable) :
    Writable 3 (Naming.exported.refinement e) := by
  obtain ⟨hspan, hargs⟩ := List.forall_mem_cons.mp h
  have hargs' : ∀ a ∈ e.args.getD [],
      Writable 1 (Naming.exported.argument a) := fun a ha =>
    writable_argument (hargs a.span (List.mem_map_of_mem ha))
  rw [exported_refinement]
  refine Sheet.writable_members (clear_refinementSheet e)
    (List.forall_iff_forall_mem.mp ?_)
  exact ⟨writable_some hspan.start, writable_some hspan.finish,
    writable_some (.text _), writable_some (.text _), writable_text? _,
    writable_text? _, writable_list? hargs',
    writable_list? fun r _ => writable_result r⟩

/-- The refinements of a place or a member can be written. -/
lemma writable_refinements {es : List Extend}
    (h : ∀ s ∈ es.flatMap Extend.spans, s.IsWritable) :
    Writable 4 (.list (es.map Naming.exported.refinement)) :=
  writable_list fun _ he => writable_refinement fun s hs =>
    h s (List.mem_flatMap_of_mem he hs)

/-- A place can be written. -/
lemma writable_define {d : Define} (h : ∀ s ∈ d.spans, s.IsWritable) :
    Writable 5 (Naming.exported.define d) := by
  obtain ⟨hspan, hrefinements⟩ := List.forall_mem_cons.mp h
  rw [exported_define]
  refine Sheet.writable_members (clear_defineSheet d)
    (List.forall_iff_forall_mem.mp ?_)
  exact ⟨writable_some hspan.start, writable_some hspan.finish,
    writable_some (.text _), writable_some (.text _),
    writable_some (writable_refinements hrefinements)⟩

/-- A member can be written. -/
lemma writable_field {f : Field} (h : ∀ s ∈ f.spans, s.IsWritable) :
    Writable 5 (Naming.exported.field f) := by
  obtain ⟨hspan, hrefinements⟩ := List.forall_mem_cons.mp h
  rw [exported_field]
  refine Sheet.writable_members (clear_fieldSheet f)
    (List.forall_iff_forall_mem.mp ?_)
  exact ⟨writable_some hspan.start, writable_some hspan.finish,
    writable_some (.text _), writable_some (.text _),
    writable_some (.text _), writable_text? _, writable_text? _,
    writable_text? _, writable_some (writable_refinements hrefinements)⟩

/-- A definition can be written. -/
lemma writable_definition {d : Definition}
    (h : ∀ s ∈ d.spans, s.IsWritable) :
    Writable 7 (Naming.exported.definition d) := by
  obtain ⟨hdefines, hfields⟩ := List.forall_mem_append.mp h
  rw [exported_definition]
  refine Sheet.writable_members (clear_definitionSheet d)
    (List.forall_iff_forall_mem.mp ?_)
  exact ⟨writable_some (.text _), writable_some (.text _),
    writable_text? _, writable_text? _,
    writable_some (writable_list fun p hp => writable_define fun s hs =>
      hdefines s (List.mem_flatMap_of_mem hp hs)),
    writable_some (writable_list fun f hf => writable_field fun s hs =>
      hfields s (List.mem_flatMap_of_mem hf hs))⟩

/-- How deep lists and objects are nested in a document. -/
def documentDepth : ℕ := 8

/-- A document can be told from its text if its offsets can be written. -/
theorem writable_definitions {ds : List Definition}
    (h : ∀ d ∈ ds, ∀ s ∈ d.spans, s.IsWritable) :
    Writable documentDepth (Naming.exported.definitions ds) :=
  writable_list fun d hd => writable_definition (h d hd)

/-! ### Documents -/

/-- The styles of documents put nothing but space beside their marks. -/
lemma sound_of_style? {indent : Option ℤ} {style : Json.Style}
    (h : style? indent = some style) : style.Sound := by
  unfold style? at h
  split at h
  · obtain rfl := Option.some.inj h
    exact Json.Style.sound_compact
  · split_ifs at h
    obtain rfl := Option.some.inj h
    exact Json.Style.sound_indented _

/-- There is a style for every number of spaces to indent by. -/
lemma exists_style?_eq {indent : Option ℤ} (h : ∀ i ∈ indent, 0 ≤ i) :
    ∃ style, style? indent = some style := by
  cases indent with
  | none => exact ⟨.compact, rfl⟩
  | some i => exact ⟨.indented i.toNat, if_pos (h i rfl)⟩

/-- A document without surrogates is read back from its text in any sound
style. -/
theorem decode_encode {style : Json.Style} (hs : style.Sound) {depth : ℕ}
    (hdepth : documentDepth ≤ depth) {ds : List Definition}
    (hplain : ∀ d ∈ ds, ∀ t ∈ d.texts, t.isPlain)
    (h : ∀ d ∈ ds, ∀ s ∈ d.spans, s.IsWritable) :
    ∃ text, encode? style ds = some text ∧ decode depth text = .ok ds := by
  have hv : Writable depth (Naming.exported.definitions ds) :=
    (writable_definitions h).mono hdepth
  have hparse := Json.parse_print hs hv
    (Value.joined_of_isPlain ((isPlain_definitions ds).mpr hplain))
  refine ⟨_, encode?_of_isPlain style hplain, ?_⟩
  rw [decode, hparse, ofParsed, ofValue, readDefinitions_exported]
  rfl

/-- **Every document of characters is read back from its text**, compact or
with any number of spaces to indent by, if its offsets have few enough
digits to be written, wherever lists and objects may be nested as deep as in
a document. -/
theorem decode_encode_indent (ds : List Definition) (indent : Option ℤ)
    (hindent : ∀ i ∈ indent, 0 ≤ i)
    (hplain : ∀ d ∈ ds, ∀ t ∈ d.texts, t.isPlain)
    (h : ∀ d ∈ ds, ∀ s ∈ d.spans, s.IsWritable)
    {depth : ℕ} (hdepth : documentDepth ≤ depth) :
    ∃ style text, style? indent = some style
      ∧ encode? style ds = some text ∧ decode depth text = .ok ds := by
  obtain ⟨style, hstyle⟩ := exists_style?_eq hindent
  exact ⟨style, (decode_encode (sound_of_style? hstyle) hdepth hplain h).imp
    fun text htext => ⟨hstyle, htext⟩⟩

/-- A function with one refinement that has an empty list of arguments
and one that has no list, and with an empty description. -/
def sampleFunction : Definition where
  name := "größe"
  kind := .setGlobal
  description := some ""
  rawDescription := none
  defines := [{
    span := ⟨0, 12, by decide⟩
    kind := .setGlobal
    file := "file:///lib/a.lua"
    refinements := [
      ⟨⟨3, 3, by decide⟩, .function, "fun()", some "\"", none, some [],
        none⟩,
      ⟨⟨4, 5, by decide⟩, .function, "fun(\n)", none, none, none,
        some []⟩] }]
  fields := []

/-- The offsets of the sample can be written. -/
lemma isWritable_sampleFunction :
    ∀ s ∈ sampleFunction.spans, s.IsWritable := by
  have hsmall : ∀ n : ℕ, n < 100 → (Number.isWritable n : Prop) := by
    intro n hn
    have hle : 100 ≤ 10 ^ Number.digitLimit := by
      calc 100 = 10 ^ 2 := rfl
        _ ≤ 10 ^ Number.digitLimit :=
          Nat.pow_le_pow_right (by decide) (by decide)
    exact Number.isWritable_iff.mpr (lt_of_lt_of_le hn hle)
  have hspans : sampleFunction.spans.map Span.finish = [12, 3, 5] := rfl
  intro s hs
  have hmem : s.finish ∈ [12, 3, 5] := hspans ▸ List.mem_map_of_mem hs
  have hlt : ∀ n ∈ [12, 3, 5], n < 100 := by decide
  exact hsmall _ (hlt _ hmem)

theorem decode_encode_indent_sampleFunction :
    (∀ i ∈ some (2 : ℤ), 0 ≤ i)
      ∧ (∀ d ∈ [sampleFunction], ∀ t ∈ d.texts, t.isPlain)
      ∧ (∀ d ∈ [sampleFunction], ∀ s ∈ d.spans, s.IsWritable)
      ∧ documentDepth ≤ 900
      ∧ ∃ style text, style? (some 2) = some style
        ∧ encode? style [sampleFunction] = some text
        ∧ decode 900 text = .ok [sampleFunction] := by
  have hindent : ∀ i ∈ some (2 : ℤ), 0 ≤ i := by
    rintro i ⟨⟩
    decide
  have hplain : ∀ d ∈ [sampleFunction], ∀ t ∈ d.texts, t.isPlain := by
    decide
  have hoffsets : ∀ d ∈ [sampleFunction], ∀ s ∈ d.spans, s.IsWritable :=
    List.forall_mem_singleton.mpr isWritable_sampleFunction
  have hdepth : documentDepth ≤ 900 := by decide
  exact ⟨hindent, hplain, hoffsets, hdepth,
    decode_encode_indent _ _ hindent hplain hoffsets hdepth⟩

end ApiBook.Record
