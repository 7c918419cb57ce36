/-
The normal form of documents.

* `Part`, `normalRecord`: what is kept of an object, part by part;
* `normalArgument`, `normalReturn`, `normalExtend`, `normalDefine`,
  `normalField`, `normalDefinition`, `normalDocument`: values in the layout
  that records are written in;
* `Settles`: the normal form of a value is what the record in it is written
  as; `settles_offset`, `Settles.list`, `Settles.objects`: the forms of
  values;
* `Part.Fills`, `normalRecord_of_fills`: the parts of records;
* `settles_document`: definitions are written as the normal form of the
  document that they were read from.
-/
import ApiBook.Proofs.Json.Reading
import ApiBook.Proofs.Record.Acceptance
import ApiBook.Proofs.Record.Encoding

namespace ApiBook.Record

open Json (Writable)

/-! ### Normal forms -/

/-- The whole number that a value stands for, if it stands for one. -/
def wholeOf? : Value → Option ℤ
  | .number (.whole i) => some i
  | .number (.float x) => x.toInt?
  | .bool b => some (if b then 1 else 0)
  | .text s => s.chars?.bind fun cs => (Number.looseWhole cs).toOption
  | _ => none

/-- The number that stands in place of a value. -/
def normalOffset (v : Value) : Value := ((wholeOf? v).map .int).getD v

/-- A list with its items in normal form. -/
def normalItems (normal : Value → Value) : Value → Value
  | .list vs => .list (vs.map normal)
  | v => v

/-- Objects in normal form, as a list: none for null, and one for an object
by itself. -/
def normalObjects (normal : Value → Value) : Value → Value
  | .null => .list []
  | .object ms => .list [normal (.object ms)]
  | v => normalItems normal v

/-- What is kept of an object under a name. -/
structure Part where
  key : Key
  /-- What is written if there is nothing under the name. -/
  absent : Value
  /-- The normal form of what is there. -/
  normal : Value → Value

namespace Part

/-- An offset. -/
def offset (k : Key) : Part := ⟨k, .null, normalOffset⟩

/-- A value that is kept as it is. -/
def plain (k : Key) : Part := ⟨k, .null, id⟩

/-- A list that may be left out. -/
def list? (k : Key) (normal : Value → Value) : Part :=
  ⟨k, .null, normalItems normal⟩

/-- A list that is always written. -/
def list (k : Key) (normal : Value → Value) : Part :=
  ⟨k, .list [], normalItems normal⟩

/-- Objects that are always written as a list. -/
def objects (k : Key) (normal : Value → Value) : Part :=
  ⟨k, .list [], normalObjects normal⟩

/-- What is written of an object: what is under the document spelling, or
else under the long name, in normal form. -/
def value (p : Part) (ms : Members) : Value :=
  (((ms.get? p.key.exported).or (ms.get? p.key.long)).map p.normal).getD
    p.absent

/-- It is written under the document spelling, and left out if it is
null. -/
def member (p : Part) (ms : Members) : Members :=
  match p.value ms with
  | .null => []
  | v => [(p.key.exported, v)]

end Part

/-- An object with these parts, and nothing else. -/
def normalRecord (parts : List Part) : Value → Value
  | .object ms => .object (parts.flatMap (·.member ms))
  | v => v

/-- A function parameter in normal form. -/
def normalArgument : Value → Value :=
  normalRecord [.offset .start, .offset .finish, .plain .name, .plain .kind,
    .plain .view, .plain .description, .plain .rawDescription]

/-- A function result in normal form. -/
def normalReturn : Value → Value :=
  normalRecord [.plain .name, .plain .kind, .plain .view,
    .plain .description, .plain .rawDescription]

/-- A refinement in normal form. -/
def normalExtend : Value → Value :=
  normalRecord [.offset .start, .offset .finish, .plain .kind, .plain .view,
    .plain .description, .plain .rawDescription, .list? .args normalArgument,
    .list? .returns normalReturn]

/-- A place in normal form. -/
def normalDefine : Value → Value :=
  normalRecord [.offset .start, .offset .finish, .plain .kind, .plain .file,
    .objects .refinements normalExtend]

/-- A member of a class or table in normal form. -/
def normalField : Value → Value :=
  normalRecord [.offset .start, .offset .finish, .plain .name, .plain .kind,
    .plain .file, .plain .description, .plain .rawDescription,
    .plain .visible, .objects .refinements normalExtend]

/-- A definition in normal form. -/
def normalDefinition : Value → Value :=
  normalRecord [.plain .name, .plain .kind, .plain .description,
    .plain .rawDescription, .list .defines normalDefine,
    .list .fields normalField]

/-- A document in normal form. -/
def normalDocument : Value → Value := normalItems normalDefinition

/-! ### Forms of values -/

section Forms

variable {α : Type} {d e : ℕ}

/-- The items of a list can be written. -/
lemma writable_of_mem_items {vs : List Value} (h : Writable d (.list vs)) :
    ∀ v ∈ vs, Writable d v := by
  cases h with
  | list h => exact fun v hv => (h v hv).mono (Nat.le_succ _)

/-- So can the members of an object. -/
lemma writable_of_get? {ms : Members} (h : Writable d (.object ms))
    {k : Text} {v : Value} (hv : ms.get? k = some v) : Writable d v := by
  cases h with
  | object _ h => exact (h _ (Members.mem_of_get? hv)).mono (Nat.le_succ _)

/-- The normal form of a value of a form is what the record in it is written
as; that is not null, and can be written if the value can. -/
def Settles (e : ℕ) (R : Value → α → Prop) (normal : Value → Value)
    (write : α → Value) : Prop :=
  ∀ ⦃d v a⦄, Writable d v → R v a →
    normal v = write a ∧ write a ≠ .null ∧ Writable e (write a)

/-- A value that counts as a whole number stands for it. -/
lemma wholeOf?_of_countsAs {v : Value} {i : ℤ} (h : CountsAs v i) :
    wholeOf? v = some i := by
  cases h with
  | whole i => rfl
  | truth => rfl
  | falsity => rfl
  | float hx _ => exact hx
  | text hs => rw [wholeOf?, Text.chars?_ofChars, Option.bind_some, hs]; rfl

/-- A number of 63 bits can be written. -/
lemma isWritable_of_lt_wordLimit {i : ℤ} (h : i.natAbs < wordLimit) :
    Number.isWritable i :=
  Number.isWritable_iff.mpr <| calc
    i.natAbs < wordLimit := h
    _ ≤ 10 ^ 19 := by decide
    _ ≤ 10 ^ Number.digitLimit :=
      Nat.pow_le_pow_right (by decide) (by decide)

/-- What counts as a whole number can be written as one. -/
lemma isWritable_of_countsAs {v : Value} {i : ℤ} (hv : Writable d v)
    (h : CountsAs v i) : Number.isWritable i := by
  cases h with
  | whole i =>
    cases hv with
    | whole h => exact h
  | truth => exact isWritable_of_lt_wordLimit (by decide)
  | falsity => exact isWritable_of_lt_wordLimit (by decide)
  | float _ hi => exact isWritable_of_lt_wordLimit hi
  | text hs => exact Number.isWritable_of_looseWhole hs

/-- Offsets are written as the numbers they stand for. -/
lemma settles_offset :
    Settles e OffsetOf normalOffset fun n => .int n := by
  intro d v n hv h
  refine ⟨?_, nofun, .whole (isWritable_of_countsAs hv h)⟩
  rw [normalOffset, wholeOf?_of_countsAs h]
  rfl

/-- Texts are written as they are. -/
lemma settles_text : Settles e TextOf id .text := by
  rintro d _ s - rfl
  exact ⟨rfl, nofun, .text s⟩

/-- So are kinds. -/
lemma settles_kind : Settles e KindOf id fun k => .text k.spelling := by
  rintro d _ k - rfl
  exact ⟨rfl, nofun, .text _⟩

variable {R : Value → α → Prop} {normal : Value → Value} {write : α → Value}

/-- Items are written one by one. -/
lemma Settles.items (h : Settles e R normal write) {vs : List Value}
    {as : List α} (hvs : ∀ v ∈ vs, Writable d v)
    (has : List.Forall₂ R vs as) :
    normalItems normal (.list vs) = .list (as.map write) ∧
      Writable (e + 1) (.list (as.map write)) := by
  have hmap : vs.map normal = as.map write ∧
      ∀ a ∈ as, Writable e (write a) := by
    induction has with
    | nil => exact ⟨rfl, List.forall_mem_nil _⟩
    | cons ha _ ih =>
      obtain ⟨hv, hvs⟩ := List.forall_mem_cons.mp hvs
      obtain ⟨hnormal, -, hwritable⟩ := h hv ha
      obtain ⟨hmap, hall⟩ := ih hvs
      rw [List.map_cons, List.map_cons, hnormal, hmap]
      exact ⟨rfl, List.forall_mem_cons.mpr ⟨hwritable, hall⟩⟩
  rw [normalItems, hmap.1]
  exact ⟨rfl, writable_list hmap.2⟩

/-- Lists are written item by item. -/
lemma Settles.list (h : Settles e R normal write) :
    Settles (e + 1) (ListOf R) (normalItems normal)
      fun as => .list (as.map write) := by
  rintro d _ as hv ⟨vs, rfl, has⟩
  obtain ⟨hnormal, hwritable⟩ := h.items (writable_of_mem_items hv) has
  exact ⟨hnormal, nofun, hwritable⟩

/-- Objects are written as a list, in whatever form they came. -/
lemma Settles.objects (h : Settles e R normal write) :
    Settles (e + 1) (OneOrMany R) (normalObjects normal)
      fun as => .list (as.map write) := by
  rintro d _ as hv (_ | @⟨ms, a, ha⟩ | @⟨vs, as, has⟩)
  · exact ⟨rfl, nofun, .list (List.forall_mem_nil _)⟩
  · obtain ⟨hnormal, -, hwritable⟩ := h hv ha
    refine ⟨?_, nofun, .list (List.forall_mem_singleton.mpr hwritable)⟩
    rw [normalObjects, hnormal]
    rfl
  · obtain ⟨hnormal, hwritable⟩ := h.items (writable_of_mem_items hv) has
    exact ⟨hnormal, nofun, hwritable⟩

end Forms

/-! ### Parts of records -/

section Parts

variable {α : Type} {d e : ℕ} {p : Part} {ms : Members}

/-- A part has its place on a sheet: what is written of an object is the
value on the sheet, or null if there is none. -/
structure Part.Fills (p : Part) (e : ℕ) (ms : Members)
    (q : Key × Option Value) : Prop where
  key : p.key = q.1
  value : p.value ms = q.2.getD .null
  /-- A value on the sheet is not null, and can be written. -/
  writable : ∀ v ∈ q.2, v ≠ .null ∧ Writable e v

/-- What is written of an object for a part that it has. -/
lemma Part.value_of_finds {v : Value} (h : p.key.Finds ms v) :
    p.value ms = p.normal v := by
  rcases h with h | ⟨h, hlong⟩
  · rw [value, h]
    rfl
  · rw [value, h, hlong]
    rfl

/-- What is written for a part that it lacks. -/
lemma Part.value_of_lacks (h : p.key.Lacks ms) : p.value ms = p.absent := by
  rw [value, h.1, h.2]
  rfl

/-- What a part has can be written. -/
lemma writable_of_finds (hms : Writable d (.object ms)) {k : Key} {v : Value}
    (h : k.Finds ms v) : Writable d v := by
  rcases h with h | ⟨-, h⟩
  · exact writable_of_get? hms h
  · exact writable_of_get? hms h

variable {R : Value → α → Prop} {write : α → Value}

/-- A part that has to be there. -/
lemma fills_has (h : Settles e R p.normal write)
    (hms : Writable d (.object ms)) {a : α} (ha : Has p.key R ms a) :
    p.Fills e ms (p.key, some (write a)) := by
  obtain ⟨v, hv, ha⟩ := ha
  obtain ⟨hnormal, hnull, hwritable⟩ := h (writable_of_finds hms hv) ha
  refine ⟨rfl, (p.value_of_finds hv).trans hnormal, ?_⟩
  rintro _ ⟨⟩
  exact ⟨hnull, hwritable⟩

/-- A part that may be left out, or be null. -/
lemma fills_may? (h : Settles e R p.normal write) (habsent : p.absent = .null)
    (hnull : p.normal .null = .null) (hms : Writable d (.object ms))
    {o : Option α} (ho : May p.key none (OrNull R) ms o) :
    p.Fills e ms (p.key, o.map write) := by
  rcases ho with ⟨hlacks, rfl⟩ | ⟨v, hv, ho⟩
  · exact ⟨rfl, (Part.value_of_lacks hlacks).trans habsent, nofun⟩
  · cases ho with
    | null => exact ⟨rfl, (Part.value_of_finds hv).trans hnull, nofun⟩
    | given ha => exact fills_has h hms ⟨v, hv, ha⟩

/-- A list that may be left out, and is written in any case. -/
lemma fills_may {R : Value → List α → Prop}
    (h : Settles (e + 1) R p.normal fun as => .list (as.map write))
    (habsent : p.absent = .list []) (hms : Writable d (.object ms))
    {as : List α} (has : May p.key [] R ms as) :
    p.Fills (e + 1) ms (p.key, some (.list (as.map write))) := by
  rcases has with ⟨hlacks, rfl⟩ | has
  · refine ⟨rfl, (Part.value_of_lacks hlacks).trans habsent, ?_⟩
    rintro _ ⟨⟩
    exact ⟨nofun, .list (List.forall_mem_nil _)⟩
  · exact fills_has h hms has

/-- A part is written as it stands on the sheet. -/
lemma Part.Fills.member_eq {q : Key × Option Value} (h : p.Fills e ms q) :
    p.member ms = Naming.exported.part? q.1 q.2 := by
  obtain ⟨k, o⟩ := q
  obtain ⟨rfl, hvalue, ho⟩ := h
  rw [Part.member, hvalue]
  cases o with
  | none => rfl
  | some v =>
    cases v with
    | null => exact absurd rfl (ho _ rfl).1
    | _ => rfl

/-- An object whose parts fill a sheet is written as the sheet. -/
lemma normalRecord_of_fills {parts : List Part} {s : Sheet} (hs : s.Clear)
    (h : List.Forall₂ (fun p q => p.Fills e ms q) parts s) :
    normalRecord parts (.object ms) = .object s.members ∧
      Value.object s.members ≠ .null ∧
      Writable (e + 1) (.object s.members) := by
  have hparts : parts.flatMap (·.member ms) = s.members ∧
      ∀ q ∈ s, ∀ v ∈ q.2, Writable e v := by
    clear hs
    induction h with
    | nil => exact ⟨rfl, List.forall_mem_nil _⟩
    | cons hp _ ih =>
      rw [List.flatMap_cons, hp.member_eq, ih.1]
      exact ⟨rfl, List.forall_mem_cons.mpr
        ⟨fun v hv => (hp.writable v hv).2, ih.2⟩⟩
  rw [normalRecord, hparts.1]
  exact ⟨rfl, nofun, Sheet.writable_members hs hparts.2⟩

end Parts

/-! ### Records -/

section Records

variable {d e : ℕ} {ms : Members}

/-- The two offsets of a span have their places on a sheet. -/
lemma fills_span {s : Span} (hms : Writable d (.object ms))
    (h : SpanOf ms s) :
    (Part.offset .start).Fills e ms (.start, some (.int s.start)) ∧
      (Part.offset .finish).Fills e ms (.finish, some (.int s.finish)) := by
  obtain ⟨start, finish, _, hstart, hfinish, rfl⟩ := h
  exact ⟨(fills_has (p := .offset .start) settles_offset hms hstart :),
    (fills_has (p := .offset .finish) settles_offset hms hfinish :)⟩

/-- So has a text. -/
lemma fills_text {k : Key} {s : Text} (hms : Writable d (.object ms))
    (h : Has k TextOf ms s) :
    (Part.plain k).Fills e ms (k, some (.text s)) :=
  fills_has settles_text hms h

/-- So has a kind. -/
lemma fills_kind {k : Key} {c : Kind} (hms : Writable d (.object ms))
    (h : Has k KindOf ms c) :
    (Part.plain k).Fills e ms (k, some (.text c.spelling)) :=
  (fills_has (p := .plain k) settles_kind hms h :)

/-- So has a text that may be left out. -/
lemma fills_text? {k : Key} {s : Option Text}
    (hms : Writable d (.object ms)) (h : MayText k ms s) :
    (Part.plain k).Fills e ms (k, s.map .text) :=
  fills_may? settles_text rfl rfl hms h

end Records

/-- Function parameters are written in normal form. -/
lemma settles_argument :
    Settles 1 (ObjectOf ArgumentOf) normalArgument
      Naming.exported.argument := by
  rintro d _ a hms ⟨ms, rfl, h⟩
  obtain ⟨hstart, hfinish⟩ := fills_span (e := 0) hms h.span
  rw [exported_argument]
  exact normalRecord_of_fills (clear_argumentSheet a) <|
    .cons hstart <| .cons hfinish <| .cons (fills_text? hms h.name) <|
    .cons (fills_kind hms h.kind) <| .cons (fills_text hms h.view) <|
    .cons (fills_text? hms h.description) <|
    .cons (fills_text? hms h.rawDescription) .nil

/-- So are function results. -/
lemma settles_return :
    Settles 1 (ObjectOf ReturnOf) normalReturn Naming.exported.result := by
  rintro d _ r hms ⟨ms, rfl, h⟩
  rw [exported_result]
  exact normalRecord_of_fills (clear_resultSheet r) <|
    .cons (fills_text? hms h.name) <| .cons (fills_kind hms h.kind) <|
    .cons (fills_text hms h.view) <|
    .cons (fills_text? hms h.description) <|
    .cons (fills_text? hms h.rawDescription) .nil

/-- So are refinements. -/
lemma settles_extend :
    Settles 3 (ObjectOf ExtendOf) normalExtend
      Naming.exported.refinement := by
  rintro d _ e hms ⟨ms, rfl, h⟩
  obtain ⟨hstart, hfinish⟩ := fills_span (e := 2) hms h.span
  rw [exported_refinement]
  exact normalRecord_of_fills (clear_refinementSheet e) <|
    .cons hstart <| .cons hfinish <| .cons (fills_kind hms h.kind) <|
    .cons (fills_text hms h.view) <|
    .cons (fills_text? hms h.description) <|
    .cons (fills_text? hms h.rawDescription) <|
    .cons (fills_may? settles_argument.list rfl rfl hms h.args) <|
    .cons (fills_may? settles_return.list rfl rfl hms h.returns) .nil

/-- So are places. -/
lemma settles_define :
    Settles 5 (ObjectOf DefineOf) normalDefine Naming.exported.define := by
  rintro d _ p hms ⟨ms, rfl, h⟩
  obtain ⟨hstart, hfinish⟩ := fills_span (e := 4) hms h.span
  rw [exported_define]
  exact normalRecord_of_fills (clear_defineSheet p) <|
    .cons hstart <| .cons hfinish <| .cons (fills_kind hms h.kind) <|
    .cons (fills_text hms h.file) <|
    .cons (fills_may settles_extend.objects rfl hms h.refinements) .nil

/-- So are members of classes and tables. -/
lemma settles_field :
    Settles 5 (ObjectOf FieldOf) normalField Naming.exported.field := by
  rintro d _ f hms ⟨ms, rfl, h⟩
  obtain ⟨hstart, hfinish⟩ := fills_span (e := 4) hms h.span
  rw [exported_field]
  exact normalRecord_of_fills (clear_fieldSheet f) <|
    .cons hstart <| .cons hfinish <| .cons (fills_text hms h.name) <|
    .cons (fills_kind hms h.kind) <| .cons (fills_text hms h.file) <|
    .cons (fills_text? hms h.description) <|
    .cons (fills_text? hms h.rawDescription) <|
    .cons (fills_text? hms h.visible) <|
    .cons (fills_may settles_extend.objects rfl hms h.refinements) .nil

/-- So are definitions. -/
lemma settles_definition :
    Settles 7 (ObjectOf DefinitionOf) normalDefinition
      Naming.exported.definition := by
  rintro d _ a hms ⟨ms, rfl, h⟩
  rw [exported_definition]
  exact normalRecord_of_fills (clear_definitionSheet a) <|
    .cons (fills_text hms h.name) <| .cons (fills_kind hms h.kind) <|
    .cons (fills_text? hms h.description) <|
    .cons (fills_text? hms h.rawDescription) <|
    .cons (fills_may settles_define.list rfl hms h.defines) <|
    .cons (fills_may settles_field.list rfl hms h.fields) .nil

/-- So are documents. -/
lemma settles_document :
    Settles 8 DocumentOf normalDocument Naming.exported.definitions :=
  settles_definition.list

end ApiBook.Record
