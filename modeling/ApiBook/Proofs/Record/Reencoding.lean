/-
What comes back of a document that is read and written again.

* `Value.Alike`: values that differ in the order of members only;
* `ComesBack`: a text of definitions stands for the normal form of a value,
  and there is one unless a surrogate is in the way;
* `comesBack_of_decode`: **what is read from a document and written is the
  normal form of the document**;
* `encode?_halfName`: what is read from a document may not be written at all.
-/
import ApiBook.Proofs.Record.NormalForm

namespace ApiBook

/-! ### Values up to the order of members -/

/-- The same value, whatever the order of members. -/
inductive Value.Alike : Value → Value → Prop
  | null : Alike .null .null
  | bool (b : Bool) : Alike (.bool b) (.bool b)
  | number (n : Number) : Alike (.number n) (.number n)
  | text (s : Text) : Alike (.text s) (.text s)
  | list {vs ws : List Value} (length_eq : vs.length = ws.length)
      (h : ∀ (i : ℕ) v w, vs[i]? = some v → ws[i]? = some w → Alike v w) :
      Alike (.list vs) (.list ws)
  | object {ms ns : Members}
      (names : ∀ k, (ms.get? k).isSome = (ns.get? k).isSome)
      (h : ∀ k v w, ms.get? k = some v → ns.get? k = some w → Alike v w) :
      Alike (.object ms) (.object ns)

/-- Being alike goes both ways. -/
lemma Value.Alike.symm {v w : Value} (h : v.Alike w) : w.Alike v := by
  induction h with
  | null => exact .null
  | bool b => exact .bool b
  | number n => exact .number n
  | text s => exact .text s
  | list length_eq _ ih =>
    exact .list length_eq.symm fun i v w hv hw => ih i w v hw hv
  | object names _ ih =>
    exact .object (fun k => (names k).symm) fun k v w hv hw => ih k w v hw hv

namespace Record

open Json (Writable)

/-! ### What comes back -/

/-- A value comes back from the text of definitions: there is a text unless
a surrogate is in one of theirs, and it stands for the normal form of the
value wherever lists and objects may be nested as deep as in a document.
That is its own normal form; and if the value differs from it in the order
of members only, it is the value itself that comes back. -/
structure ComesBack (style : Json.Style) (ds : List Definition) (v : Value) :
    Prop where
  unwritable : encode? style ds = none ↔
    ∃ d ∈ ds, ∃ t ∈ d.texts, ¬ t.isPlain
  normal : ∀ text, encode? style ds = some text → ∀ depth ≥ documentDepth,
    Json.parse depth text = .ok (normalDocument v)
  settled : normalDocument (normalDocument v) = normalDocument v
  same : v.Alike (normalDocument v) →
    ∀ text, encode? style ds = some text → ∀ depth ≥ documentDepth,
      ∃ w, Json.parse depth text = .ok w ∧ w.Alike v

/-- A document that can be written comes back from the text of its
definitions. -/
lemma comesBack_of_documentOf {style : Json.Style} (hs : style.Sound) {d : ℕ}
    {v : Value} {ds : List Definition} (hv : Writable d v)
    (h : DocumentOf v ds) : ComesBack style ds v := by
  obtain ⟨hnormal, -, hwritable⟩ := settles_document hv h
  have hparse : ∀ text, encode? style ds = some text →
      ∀ depth ≥ documentDepth,
        Json.parse depth text = .ok (normalDocument v) := by
    intro text htext depth hdepth
    rw [encode?] at htext
    split at htext
    next hplain =>
      obtain rfl := Option.some.inj htext
      rw [hnormal]
      exact Json.parse_print hs (hwritable.mono hdepth)
        (Value.joined_of_isPlain hplain)
    · exact absurd htext (by simp)
  have hexported : DocumentOf (Naming.exported.definitions ds) ds :=
    (reads_definitions _ ds).mp (readDefinitions_exported ds)
  refine ⟨encode?_eq_none_iff style, hparse, ?_,
    fun halike text htext depth hdepth =>
      ⟨_, hparse text htext depth hdepth, halike.symm⟩⟩
  rw [hnormal]
  exact (settles_document hwritable hexported).1

/-- What is read from a text is read from the value that the text stands
for. -/
lemma exists_documentOf_of_ofParsed {text : Text}
    {parsed : Except Json.Fault Value} {ds : List Definition}
    (h : ofParsed text parsed = .ok ds) :
    ∃ v, parsed = .ok v ∧ DocumentOf v ds := by
  cases parsed with
  | error f => exact absurd h (by simp [ofParsed])
  | ok v =>
    refine ⟨v, rfl, (reads_definitions v ds).mp ?_⟩
    rw [ofParsed, ofValue] at h
    cases hread : readDefinitions v with
    | valid ds' =>
      rw [hread] at h
      rw [Except.ok.inj h]
    | invalid vs =>
      rw [hread] at h
      exact absurd h (by simp [Checked.outcome])

/-- **What is read from a document and written is the normal form of the
document.** Let a document, as a text or as bytes, be read as definitions.
Then it stands for a value; and the text of the definitions, compact or
with any number of spaces to indent by, stands for the normal form of that
value. Nothing is lost but what the normal form leaves out: names that no
record has, and what is null or lacking. There is such a text, unless one
of the texts in the definitions has a surrogate: they are read all the
same, but cannot be written. -/
theorem comesBack_of_decode (indent : Option ℤ)
    (hindent : ∀ i ∈ indent, 0 ≤ i) :
    ∃ style, style? indent = some style ∧
      (∀ depth text ds, decode depth text = .ok ds →
        ∃ v, Json.parse depth text = .ok v ∧ ComesBack style ds v) ∧
      ∀ depth bytes ds, decodeBytes? depth bytes = some (.ok ds) →
        ∃ text v, Json.decodeBytes? bytes = some text ∧
          Json.parseBody depth text.toList = .ok v ∧
          ComesBack style ds v := by
  obtain ⟨style, hstyle⟩ := exists_style?_eq hindent
  have hs := sound_of_style? hstyle
  refine ⟨style, hstyle, fun depth text ds h => ?_,
    fun depth bytes ds h => ?_⟩
  · obtain ⟨v, hv, hdocument⟩ := exists_documentOf_of_ofParsed h
    exact ⟨v, hv, comesBack_of_documentOf hs
      (Json.legible_of_parse hv).writable hdocument⟩
  · obtain ⟨text, htext, h⟩ := Option.map_eq_some_iff.mp h
    obtain ⟨v, hv, hdocument⟩ := exists_documentOf_of_ofParsed h
    exact ⟨text, v, htext, hv, comesBack_of_documentOf hs
      (Json.legible_of_parseBody hv).writable hdocument⟩

/-- A place with a refinement by itself, and with offsets that are no whole
numbers. -/
def loosePlace : Value := .object [
  ("type", .text "setglobal"), ("start", .text "1_0"),
  ("finish", .float (.ofDecimal false 12 0)),
  ("file", .text "file:///a.lua"), ("extends", .object [
    ("start", .bool true), ("finish", .bool true), ("kind", .text "table"),
    ("view", .text "a")])]

/-- A document with long names, an unknown name and a null. -/
def looseDocument : Value := .list [.object [
  ("name", .text "a"), ("kind", .text "table"), ("since", .text "2"),
  ("desc", .null), ("defines", .list [loosePlace])]]

/-- The definition in it. -/
def looseTable : Definition where
  name := "a"
  kind := .table
  description := none
  rawDescription := none
  defines := [{
    span := ⟨10, 12, by decide⟩
    kind := .setGlobal
    file := "file:///a.lua"
    refinements :=
      [⟨⟨1, 1, by decide⟩, .table, "a", none, none, none, none⟩] }]
  fields := []

/-- The document can be told from its text. -/
lemma writable_looseDocument : Writable 5 looseDocument := by
  have hplace : Writable 2 loosePlace := by
    refine .object (by decide) ?_
    simp only [List.forall_mem_cons]
    refine ⟨.text _, .text _, .float _, .text _, .object (by decide) ?_,
      List.forall_mem_nil _⟩
    simp only [List.forall_mem_cons]
    exact ⟨.bool _, .bool _, .text _, .text _, List.forall_mem_nil _⟩
  refine .list (List.forall_mem_singleton.mpr (.object (by decide) ?_))
  simp only [List.forall_mem_cons]
  exact ⟨.text _, .text _, .text _, .null,
    .list (List.forall_mem_singleton.mpr hplace), List.forall_mem_nil _⟩

/-- What is read from the document comes back in document spelling, with
whole numbers for its offsets and a list for the refinement. -/
theorem comesBack_of_decode_looseDocument :
    (∀ i ∈ some (2 : ℤ), 0 ≤ i) ∧
      decode 8 (Json.print .compact looseDocument) = .ok [looseTable] ∧
      ∃ style text, style? (some 2) = some style ∧
        encode? style [looseTable] = some text ∧
        Json.parse 8 text =
          .ok (.list [.object [("name", .text "a"), ("type", .text "table"),
            ("defines", .list [.object [("start", .int 10),
              ("finish", .int 12), ("type", .text "setglobal"),
              ("file", .text "file:///a.lua"), ("extends", .list [.object [
                ("start", .int 1), ("finish", .int 1),
                ("type", .text "table"), ("view", .text "a")]])]]),
            ("fields", .list [])]]) := by
  have hindent : ∀ i ∈ some (2 : ℤ), 0 ≤ i := by
    rintro i ⟨⟩
    decide
  have hparse : Json.parse 8 (Json.print .compact looseDocument) =
      .ok looseDocument :=
    Json.parse_print Json.Style.sound_compact
      (writable_looseDocument.mono (by decide))
      (Value.joined_of_isPlain (by decide))
  have hdecode : decode 8 (Json.print .compact looseDocument) =
      .ok [looseTable] := by
    rw [decode, hparse, ofParsed]
    decide +kernel
  obtain ⟨style, hstyle, htext, -⟩ := comesBack_of_decode (some 2) hindent
  obtain ⟨v, hv, hback⟩ := htext _ _ _ hdecode
  obtain rfl := Except.ok.inj (hparse.symm.trans hv)
  have hplain : ∀ d ∈ [looseTable], ∀ t ∈ d.texts, t.isPlain := by decide
  have hencode := encode?_of_isPlain style hplain
  exact ⟨hindent, hdecode, style, _, hstyle, hencode,
    hback.normal _ hencode 8 le_rfl⟩

/-! ### A name that cannot be written -/

/-- A document with the first half of a character for a name. -/
def halfDocument : Text :=
  "[\x7b\"name\": \"\\ud800\", \"type\": \"table\"\x7d]"

/-- The definition in it. -/
def halfName : Definition where
  name := .ofList [.surrogate 0]
  kind := .table
  description := none
  rawDescription := none
  defines := []
  fields := []

/-- The document is read, but what is read from it cannot be written. -/
theorem encode?_halfName :
    decode 8 halfDocument = .ok [halfName] ∧
      encode? .compact [halfName] = none := by
  decide +kernel

end Record

end ApiBook
