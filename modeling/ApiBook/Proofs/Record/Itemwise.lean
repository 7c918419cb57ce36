/-
Documents are decoded item by item.

* `OutcomeOf`: what comes of a document that stands for a value, given as
  a text or as bytes; `OutcomeOf.eq`: it comes of the value;
* `Checked.violations_items`: the violations of the items of a list, all of
  them, in order and each under its index; `Checked.items_eq_valid_iff`: a list
  comes out well if its items do;
* `DecodeError.countText`: how many violations a message speaks of;
* `decode_itemwise`: **a list of definitions is decoded as its items are,
  one by one**.
-/
import ApiBook.Proofs.Record.Acceptance

namespace ApiBook.Record

variable {α β : Type}

/-! ### What comes of a document -/

/-- What comes of a document that stands for a value, whether it is given as
a text or as bytes. -/
inductive OutcomeOf (v : Value) :
    Except DecodeError (List Definition) → Prop
  | text {depth : ℕ} {text : Text} (h : Json.parse depth text = .ok v) :
      OutcomeOf v (decode depth text)
  | bytes {depth : ℕ} {bs : List UInt8} {text : Text}
      {r : Except DecodeError (List Definition)}
      (hbytes : Json.decodeBytes? bs = some text)
      (h : Json.parseBody depth text.toList = .ok v)
      (hr : decodeBytes? depth bs = some r) : OutcomeOf v r

/-- It comes of the value, in whatever way the document is given. -/
lemma OutcomeOf.eq {v : Value} {r : Except DecodeError (List Definition)}
    (h : OutcomeOf v r) : r = ofValue v := by
  cases h with
  | text h => rw [decode, h, ofParsed]
  | bytes hbytes h hr =>
    rw [decodeBytes?, hbytes, Option.map_some, h, ofParsed] at hr
    exact (Option.some.inj hr).symm

/-! ### Lists item by item -/

section Lists

variable {R S : Value → α → Prop} {vs : List Value} {as : List α}

/-- Every item of a list is related to something if the list is related, item
by item, to another one. -/
lemma exists_forall₂_iff :
    (∃ as, List.Forall₂ R vs as) ↔ ∀ v ∈ vs, ∃ a, R v a := by
  constructor
  · rintro ⟨as, has⟩
    induction has with
    | nil => exact List.forall_mem_nil _
    | cons ha _ ih => exact List.forall_mem_cons.mpr ⟨⟨_, ha⟩, ih⟩
  · intro h
    induction vs with
    | nil => exact ⟨[], .nil⟩
    | cons v vs ih =>
      obtain ⟨⟨a, ha⟩, hvs⟩ := List.forall_mem_cons.mp h
      obtain ⟨as, has⟩ := ih hvs
      exact ⟨a :: as, .cons ha has⟩

/-- Relations that agree on the items of a list relate it to the same
lists. -/
lemma forall₂_congr (h : ∀ v ∈ vs, ∀ a, R v a ↔ S v a) :
    List.Forall₂ R vs as ↔ List.Forall₂ S vs as := by
  induction vs generalizing as with
  | nil => rw [List.forall₂_nil_left_iff, List.forall₂_nil_left_iff]
  | cons v vs ih =>
    obtain ⟨hv, hvs⟩ := List.forall_mem_cons.mp h
    simp only [List.forall₂_cons_left_iff, hv, ih hvs]

end Lists

/-! ### Violations, part by part -/

namespace Checked

/-- A function of a part has the violations of the part. -/
lemma violations_map (f : α → β) (c : Checked α) :
    (f <$> c).violations = c.violations := by
  cases c <;> rfl

/-- Two parts together have the violations of both, in order. -/
lemma violations_seq (cf : Checked (α → β)) (c : Checked α) :
    (cf <*> c).violations = cf.violations ++ c.violations := by
  cases cf with
  | valid f => cases c <;> rfl
  | invalid vs => rfl

/-- A part has its violations from wherever it is seen, each under the way
to the part. -/
lemma violations_under (s : Step) (c : Checked α) :
    (c.under s).violations = c.violations.map (·.under s) := by
  cases c <;> rfl

/-- The items of a list have their violations in order, each under the index
of the item. -/
lemma violations_items (check : Value → Checked α) (vs : List Value) :
    (items check vs).violations = vs.zipIdx.flatMap fun p =>
      (check p.1).violations.map (·.under (.index p.2)) := by
  have hfrom : ∀ i, (itemsFrom check i vs).violations =
      (vs.zipIdx i).flatMap fun p =>
        (check p.1).violations.map (·.under (.index p.2)) := by
    induction vs with
    | nil => exact fun _ => rfl
    | cons v vs ih =>
      intro i
      rw [itemsFrom, violations_seq, violations_map, violations_under,
        ih (i + 1), List.zipIdx_cons, List.flatMap_cons]
  exact hfrom 0

/-- A list comes out well, as some results, if its items do, one by one. -/
lemma items_eq_valid_iff {check : Value → Checked α} {vs : List Value}
    {as : List α} :
    items check vs = valid as ↔
      List.Forall₂ (fun v a => check v = valid a) vs as :=
  items_eq_valid fun _ _ => Iff.rfl

/-- Lists whose items are checked alike are. -/
lemma items_congr {check : Value → Checked α} {vs ws : List Value}
    (h : List.Forall₂ (fun v w => check v = check w) vs ws) :
    items check vs = items check ws := by
  have hfrom : ∀ i, itemsFrom check i vs = itemsFrom check i ws := by
    induction h with
    | nil => exact fun _ => rfl
    | cons hv _ ih =>
      intro i
      rw [itemsFrom, itemsFrom, hv, ih (i + 1)]
  exact hfrom 0

/-- The outcome of a check is a result if the check comes out well. -/
lemma outcome_eq_ok_iff {subject : Subject} {c : Checked α} {a : α} :
    c.outcome subject = .ok a ↔ c = valid a := by
  cases c <;> simp [outcome]

end Checked

/-! ### Messages and violations of outcomes -/

namespace DecodeError

/-- What a message says that speaks of a number of violations. -/
def countText (subject : Subject) (n : ℕ) : String :=
  "Invalid documentation record: " ++ Decimal.text n
    ++ (if n = 1 then " validation error" else " validation errors")
    ++ " for "
    ++ (match subject with
      | .documentation => "list[Definition]"
      | .definition => "Definition")

/-- The violations of an outcome; none if it is a result. -/
def violationsOf : Except DecodeError α → List Violation
  | .ok _ => []
  | .error e => e.violations

/-- They are those of the check that the outcome comes from. -/
lemma violationsOf_outcome (subject : Subject) (c : Checked α) :
    violationsOf (c.outcome subject) = c.violations := by
  cases c <;> rfl

/-- A check that fails has its violations for an outcome, and a message that
speaks of as many. -/
lemma of_outcome_eq_error {subject : Subject} {c : Checked α}
    {e : DecodeError} (h : c.outcome subject = .error e) :
    e.violations = c.violations ∧
      e.message = countText subject e.violations.length := by
  cases c with
  | valid a => exact absurd h nofun
  | invalid vs =>
    obtain rfl := Except.error.inj h
    exact ⟨rfl, rfl⟩

end DecodeError

open DecodeError

/-- A value that is no text is the definition itself. -/
lemma oneOfGiven_eq (depth : ℕ) {v : Value} (h : ∀ s, v ≠ .text s) :
    oneOfGiven depth v = (readDefinition v).outcome .definition := by
  cases v with
  | text s => exact absurd rfl (h s)
  | _ => rfl

/-! ### Documents -/

/-- **A list of definitions is decoded as its items are, one by one.** For a
document that is a list, none of its items a text: it is decoded if each
item is decoded by itself, and then to the definitions of the items in
order. Otherwise what is wrong with it is what is wrong with its items, all
of it, in order, and each violation under the index of its item; and the
message speaks of as many violations as those of the items do together. -/
theorem decode_itemwise {vs : List Value} (hvs : ∀ v ∈ vs, ∀ s, v ≠ .text s)
    {r : Except DecodeError (List Definition)}
    (hr : OutcomeOf (.list vs) r) (depth : ℕ) :
    ((∃ ds, r = .ok ds) ↔ ∀ v ∈ vs, ∃ d, oneOfGiven depth v = .ok d) ∧
    (∀ ds, r = .ok ds ↔
      List.Forall₂ (fun v d => oneOfGiven depth v = .ok d) vs ds) ∧
    ((∃ v ∈ vs, ∃ e, oneOfGiven depth v = .error e) → ∃ e, r = .error e ∧
      e.violations = (vs.zipIdx.flatMap fun p =>
        (violationsOf (oneOfGiven depth p.1)).map (·.under (.index p.2))) ∧
      e.message = countText .documentation
        (vs.map fun v => (violationsOf (oneOfGiven depth v)).length).sum) ∧
    ∀ v ∈ vs, ∀ e, oneOfGiven depth v = .error e →
      e.message = countText .definition e.violations.length := by
  have hone : ∀ v ∈ vs, oneOfGiven depth v =
      (readDefinition v).outcome .definition :=
    fun v hv => oneOfGiven_eq depth (hvs v hv)
  have hmany : r = (Checked.items readDefinition vs).outcome .documentation :=
    hr.eq
  have hwell : ∀ ds, r = .ok ds ↔
      List.Forall₂ (fun v d => oneOfGiven depth v = .ok d) vs ds := by
    intro ds
    rw [hmany, Checked.outcome_eq_ok_iff, Checked.items_eq_valid_iff]
    refine forall₂_congr fun v hv d => ?_
    rw [hone v hv, Checked.outcome_eq_ok_iff]
  have hexists : (∃ ds, r = .ok ds) ↔
      ∀ v ∈ vs, ∃ d, oneOfGiven depth v = .ok d := by
    simp only [hwell, exists_forall₂_iff]
  have hwrong : (Checked.items readDefinition vs).violations =
      vs.zipIdx.flatMap fun p =>
        (violationsOf (oneOfGiven depth p.1)).map (·.under (.index p.2)) := by
    rw [Checked.violations_items]
    refine List.flatMap_congr fun p hp => ?_
    rw [hone p.1 (List.fst_mem_of_mem_zipIdx hp), violationsOf_outcome]
  refine ⟨hexists, hwell, ?_, ?_⟩
  · rintro ⟨v, hv, e, he⟩
    cases hcase : r with
    | ok ds =>
      obtain ⟨d, hd⟩ := hexists.mp ⟨ds, hcase⟩ v hv
      exact absurd (he.symm.trans hd) nofun
    | error f =>
      obtain ⟨hviolations, hmessage⟩ :=
        of_outcome_eq_error (hmany.symm.trans hcase)
      refine ⟨f, rfl, hviolations.trans hwrong, ?_⟩
      have hcount : (vs.zipIdx.map fun p =>
          (violationsOf (oneOfGiven depth p.1)).length) =
          vs.map fun v => (violationsOf (oneOfGiven depth v)).length := by
        conv_rhs =>
          rw [← List.zipIdx_map_fst 0 vs, List.map_map, Function.comp_def]
      rw [hmessage, hviolations, hwrong, List.length_flatMap]
      simp only [List.length_map, hcount]
  · intro v hv e he
    rw [hone v hv] at he
    exact (of_outcome_eq_error he).2

/-- A document with a definition, a null, and an object with an unknown kind,
no name, and a place that ends before it starts. -/
def mixedDocument : List Value := [
  .object [("name", .text "a"), ("type", .text "table")],
  .null,
  .object [("type", .text "module"), ("defines", .list [.object [
    ("start", .text "3"), ("finish", .bool true), ("type", .text "local"),
    ("file", .text "file:///a.lua")]])]]

/-- The document can be told from its text. -/
lemma writable_mixedDocument : Json.Writable 4 (.list mixedDocument) := by
  have hplace : Json.Writable 1 (.object [
      ("start", .text "3"), ("finish", .bool true), ("type", .text "local"),
      ("file", .text "file:///a.lua")]) := by
    refine .object (by decide) ?_
    simp only [List.forall_mem_cons]
    exact ⟨.text _, .bool _, .text _, .text _, List.forall_mem_nil _⟩
  refine .list ?_
  simp only [mixedDocument, List.forall_mem_cons]
  refine ⟨.object (by decide) ?_, .null, .object (by decide) ?_,
    List.forall_mem_nil _⟩
  · simp only [List.forall_mem_cons]
    exact ⟨.text _, .text _, List.forall_mem_nil _⟩
  · simp only [List.forall_mem_cons]
    exact ⟨.text _, .list (List.forall_mem_singleton.mpr hplace),
      List.forall_mem_nil _⟩

/-- The violations of the second and of the third item are those of the
document, and its message counts them all. -/
theorem decode_itemwise_mixedDocument :
    (∀ v ∈ mixedDocument, ∀ s, v ≠ .text s) ∧
    OutcomeOf (.list mixedDocument)
      (decode 4 (Json.print .compact (.list mixedDocument))) ∧
    ∃ e, decode 4 (Json.print .compact (.list mixedDocument)) =
        .error e ∧
      e.violations = [⟨[.index 1], .notRecord "Definition"⟩,
        ⟨[.index 2, .member "name"], .missing⟩,
        ⟨[.index 2, .member "type"], .notKind⟩,
        ⟨[.index 2, .member "defines", .index 0], .reversed 3 1⟩] ∧
      e.message = "Invalid documentation record: 4 validation errors "
        ++ "for list[Definition]" := by
  have hvs : ∀ v ∈ mixedDocument, ∀ s, v ≠ .text s := by
    simp [mixedDocument]
  have hr : OutcomeOf (.list mixedDocument)
      (decode 4 (Json.print .compact (.list mixedDocument))) :=
    .text (Json.parse_print Json.Style.sound_compact writable_mixedDocument
      (Value.joined_of_isPlain (by decide)))
  obtain ⟨-, -, hwrong, -⟩ := decode_itemwise hvs hr 4
  have hnull : oneOfGiven 4 .null =
      .error (.invalid .definition [⟨[], .notRecord "Definition"⟩]) := rfl
  obtain ⟨e, he, hviolations, hmessage⟩ :=
    hwrong ⟨.null, by simp [mixedDocument], _, hnull⟩
  refine ⟨hvs, hr, e, he, ?_, ?_⟩
  · rw [hviolations]
    decide +kernel
  · rw [hmessage]
    decide +kernel

end ApiBook.Record
