/-
Documents that write the refinements of their places in different forms.

* `SameRefinements`: what may be written in place of each other for the
  refinements of a place;
* `RespelledPlace`, `RespelledDefinition`, `Respelled`: documents that
  differ in how the refinements of some places and members are written, and
  in nothing else;
* `optional_refinements_eq`, `optional_list_eq`: what is read of them is the
  same;
* `decode_respelled`: **documents that differ in the form of refinements
  only are decoded alike**.
-/
import ApiBook.Proofs.Record.Itemwise

namespace ApiBook.Record

variable {α : Type}

/-! ### Documents in other forms -/

/-- What may stand under a name for no objects at all: nothing, a null, or
an empty list. -/
inductive IsNothing : Option Value → Prop
  | absent : IsNothing none
  | null : IsNothing (some .null)
  | empty : IsNothing (some (.list []))

/-- What may be written in place of each other for the refinements of a
place: nothing in any of its forms, and an object by itself or alone in a
list. -/
inductive SameRefinements : Option Value → Option Value → Prop
  | same (o : Option Value) : SameRefinements o o
  | nothing {o o' : Option Value} (h : IsNothing o) (h' : IsNothing o') :
      SameRefinements o o'
  | wrapped (ms : Members) :
      SameRefinements (some (.object ms)) (some (.list [.object ms]))
  | unwrapped (ms : Members) :
      SameRefinements (some (.list [.object ms])) (some (.object ms))

/-- Objects with the same values under all names but some. -/
def AgreeOutside (names : List String) (ms ms' : Members) : Prop :=
  ∀ name, (∀ n ∈ names, name ≠ Text.ofString n) →
    ms.get? name = ms'.get? name

/-- Places, or members of classes, that differ in the form of their
refinements only. -/
structure RespelledPlace (ms ms' : Members) : Prop where
  refinements : SameRefinements (ms.get? "extends") (ms'.get? "extends")
  others : AgreeOutside ["extends"] ms ms'

/-- Values that are the same, or objects in a relation. -/
inductive SameOr (R : Members → Members → Prop) : Value → Value → Prop
  | same (v : Value) : SameOr R v v
  | object {ms ms' : Members} (h : R ms ms') :
      SameOr R (.object ms) (.object ms')

/-- Values that are the same, or lists that differ in objects that are in a
relation, one by one. -/
inductive SameOrList (R : Members → Members → Prop) : Value → Value → Prop
  | same (v : Value) : SameOrList R v v
  | list {vs ws : List Value} (h : List.Forall₂ (SameOr R) vs ws) :
      SameOrList R (.list vs) (.list ws)

/-- Definitions that differ in the form of the refinements of their places
and members only. -/
structure RespelledDefinition (ms ms' : Members) : Prop where
  defines : Option.Rel (SameOrList RespelledPlace) (ms.get? "defines")
    (ms'.get? "defines")
  fields : Option.Rel (SameOrList RespelledPlace) (ms.get? "fields")
    (ms'.get? "fields")
  others : AgreeOutside ["defines", "fields"] ms ms'

/-- Documents that differ in the form of the refinements of places and
members only, in as many of them as may be. -/
def Respelled : Value → Value → Prop := SameOrList RespelledDefinition

/-! ### Parts of objects that agree -/

section Parts

variable {names : List String} {ms ms' : Members} {k : Key}

/-- A part is found alike in objects that agree on its spellings. -/
lemma AgreeOutside.find?_eq (h : AgreeOutside names ms ms')
    (hk : k.exported ∉ names) (hlong : k.long ∉ names) :
    k.find? ms = k.find? ms' := by
  have hname : ∀ s : String, s ∉ names → ms.get? s = ms'.get? s := fun s hs =>
    h s fun n hn heq => hs (Text.ofString_inj.mp heq ▸ hn)
  rw [Key.find?, Key.find?, hname _ hk, hname _ hlong]

/-- A part that has to be there is read alike. -/
lemma AgreeOutside.required_eq (h : AgreeOutside names ms ms')
    (hk : k.exported ∉ names) (hlong : k.long ∉ names)
    (read : Value → Checked α) : required k read ms = required k read ms' := by
  rw [required, required, h.find?_eq hk hlong]

/-- So is a part that may be left out. -/
lemma AgreeOutside.optional_eq (h : AgreeOutside names ms ms')
    (hk : k.exported ∉ names) (hlong : k.long ∉ names) (absent : α)
    (read : Value → Checked α) :
    optional k absent read ms = optional k absent read ms' := by
  rw [optional, optional, h.find?_eq hk hlong]

/-- A part with one spelling that may be left out is what stands under
that. -/
lemma optional_same (name : String) (absent : α) (read : Value → Checked α)
    (ms : Members) :
    optional (.same name) absent read ms =
      ((ms.get? name).map fun v => (read v).under (.member name)).getD
        (.valid absent) := by
  rw [optional, Key.find?, Key.same]
  cases ms.get? name <;> rfl

/-- Nothing is read as no objects, in any of its forms. -/
lemma readObjects_of_isNothing {o : Option Value} (h : IsNothing o)
    (name : String) (read : Value → Checked α) :
    (o.map fun v => (readObjects read v).under (.member name)).getD
      (.valid []) = .valid [] := by
  cases h <;> rfl

/-- Refinements are read alike, in whatever form they are written. -/
lemma optional_refinements_eq (read : Value → Checked α)
    (h : SameRefinements (ms.get? "extends") (ms'.get? "extends")) :
    optional .refinements [] (readObjects read) ms =
      optional .refinements [] (readObjects read) ms' := by
  rw [Key.refinements, optional_same, optional_same]
  generalize ms.get? "extends" = o at h ⊢
  generalize ms'.get? "extends" = o' at h ⊢
  cases h with
  | same => rfl
  | nothing h h' =>
    rw [readObjects_of_isNothing h, readObjects_of_isNothing h']
  | wrapped => rfl
  | unwrapped => rfl

variable {R : Members → Members → Prop} {read : Value → Checked α}

/-- Lists are read alike whose items are. -/
lemma SameOrList.readList_eq {v w : Value} (h : SameOrList R v w)
    (hread : ∀ ms ms', R ms ms' → read (.object ms) = read (.object ms')) :
    readList read v = readList read w := by
  cases h with
  | same => rfl
  | list h =>
    refine Checked.items_congr (h.imp fun v w hvw => ?_)
    cases hvw with
    | same => rfl
    | object h => exact hread _ _ h

/-- A list is read alike in two objects if its items are. -/
lemma optional_list_eq {name : String}
    (h : Option.Rel (SameOrList R) (ms.get? name) (ms'.get? name))
    (hread : ∀ ms ms', R ms ms' → read (.object ms) = read (.object ms')) :
    optional (.same name) [] (readList read) ms =
      optional (.same name) [] (readList read) ms' := by
  rw [optional_same, optional_same]
  generalize ms.get? name = o at h ⊢
  generalize ms'.get? name = o' at h ⊢
  cases h with
  | none => rfl
  | some h => rw [Option.map_some, Option.map_some, h.readList_eq hread]

end Parts

/-! ### Records -/

/-- Places are read alike. -/
lemma readDefine_eq (ms ms' : Members) (h : RespelledPlace ms ms') :
    readDefine (.object ms) = readDefine (.object ms') := by
  simp (disch := decide) only [readDefine, readRecord,
    h.others.required_eq, optional_refinements_eq _ h.refinements]

/-- So are members of classes and tables. -/
lemma readField_eq (ms ms' : Members) (h : RespelledPlace ms ms') :
    readField (.object ms) = readField (.object ms') := by
  simp (disch := decide) only [readField, readRecord,
    h.others.required_eq, h.others.optional_eq,
    optional_refinements_eq _ h.refinements]

/-- So are definitions. -/
lemma readDefinition_eq (ms ms' : Members) (h : RespelledDefinition ms ms') :
    readDefinition (.object ms) = readDefinition (.object ms') := by
  have hdefines : optional .defines [] (readList readDefine) ms =
      optional .defines [] (readList readDefine) ms' :=
    optional_list_eq h.defines readDefine_eq
  have hfields : optional .fields [] (readList readField) ms =
      optional .fields [] (readList readField) ms' :=
    optional_list_eq h.fields readField_eq
  simp (disch := decide) only [readDefinition, readRecord,
    h.others.required_eq, h.others.optional_eq, hdefines, hfields]

/-! ### Documents -/

/-- **Documents that differ in the form of refinements only are decoded
alike.** What comes of them is the same, the definitions or all that is
wrong with them, whether they are given as texts or as bytes; and a list
that came of any of the forms stays as it is. -/
theorem decode_respelled {v w : Value} (h : Respelled v w) :
    ofValue v = ofValue w ∧
    (∀ r r', OutcomeOf v r → OutcomeOf w r' → r = r') ∧
    ∀ u vs, objectList u = .ok vs → objectList (.list vs) = .ok vs := by
  have hread : readDefinitions v = readDefinitions w :=
    h.readList_eq readDefinition_eq
  have hsame : ofValue v = ofValue w := by
    rw [ofValue, ofValue, hread]
  refine ⟨hsame, fun r r' hr hr' => ?_, fun u vs _ => rfl⟩
  rw [hr.eq, hr'.eq, hsame]

/-- A place, with something under the name of its refinements or nothing. -/
def samplePlace (refinements : Members) : Value :=
  .object (("start", .int 4) :: ("finish", .int 9)
    :: ("type", .text "setglobal") :: ("file", .text "file:///a.lua")
    :: refinements)

/-- A document with two places of a definition, and a member of it. -/
def sampleDocument (first second member : Members) : Value :=
  .list [.object [("name", .text "a"), ("type", .text "table"),
    ("defines", .list [samplePlace first, samplePlace second]),
    ("fields", .list [samplePlace (("name", .text "b") :: member)])]]

/-- A refinement that lacks its offsets and its kind. -/
def bareRefinement : Value := .object [("view", .text "b")]

/-- Sample places differ in the form of their refinements only. -/
lemma sameOr_samplePlace {ms ms' : Members}
    (h : SameRefinements (Members.get? "extends" ms)
      (Members.get? "extends" ms'))
    (hothers : AgreeOutside ["extends"] ms ms') :
    SameOr RespelledPlace (samplePlace ms) (samplePlace ms') := by
  refine .object ⟨?_, fun name hname => ?_⟩
  · simpa [Members.get?] using h
  · simp [Members.get?, hothers name hname]

/-- A refinement by itself is read as if it were in a list, with all that is
wrong with it; and refinements that are null or left out are read as if the
list were empty. -/
theorem decode_respelled_sampleDocument :
    Respelled
      (sampleDocument [("extends", bareRefinement)] [("extends", .null)] [])
      (sampleDocument [("extends", .list [bareRefinement])] []
        [("extends", .list [])]) ∧
    ofValue (sampleDocument [("extends", bareRefinement)]
      [("extends", .null)] []) =
      .error (.invalid .documentation [
        ⟨[.index 0, .member "defines", .index 0, .member "extends", .index 0,
          .member "start"], .missing⟩,
        ⟨[.index 0, .member "defines", .index 0, .member "extends", .index 0,
          .member "finish"], .missing⟩,
        ⟨[.index 0, .member "defines", .index 0, .member "extends", .index 0,
          .member "type"], .missing⟩]) := by
  have hfirst : SameOr RespelledPlace
      (samplePlace [("extends", bareRefinement)])
      (samplePlace [("extends", .list [bareRefinement])]) :=
    sameOr_samplePlace (.wrapped _) fun name hname => by
      simp_all [Members.get?, eq_comm]
  have hsecond : SameOr RespelledPlace (samplePlace [("extends", .null)])
      (samplePlace []) :=
    sameOr_samplePlace (.nothing .null .absent) fun name hname => by
      simp_all [Members.get?, eq_comm]
  have hmember : SameOr RespelledPlace (samplePlace [("name", .text "b")])
      (samplePlace [("name", .text "b"), ("extends", .list [])]) :=
    sameOr_samplePlace (.nothing .absent .empty) fun name hname => by
      simp_all [Members.get?, eq_comm]
  have h : Respelled
      (sampleDocument [("extends", bareRefinement)] [("extends", .null)] [])
      (sampleDocument [("extends", .list [bareRefinement])] []
        [("extends", .list [])]) := by
    refine .list (.cons (.object ⟨?_, ?_, fun name hname => ?_⟩) .nil)
    · exact .some (.list (.cons hfirst (.cons hsecond .nil)))
    · exact .some (.list (.cons hmember .nil))
    · simp_all [Members.get?, eq_comm]
  refine ⟨h, ?_⟩
  rw [(decode_respelled h).1]
  decide +kernel

end ApiBook.Record
