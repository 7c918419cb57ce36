/-
Records as sheets: the parts of a record in the order they are written,
each with its value if it has one. A part without a value is not
written.

* `Apart`: parts that are never found under the spelling of each other;
* `find?_members`: each part of a sheet is found with its own value;
* `nodup_names`: no two members of a sheet have the same name;
* `required_members`, `optional_members`: a part is read back from a
  sheet if its value is;
* `writable_members`: a sheet can be written if the values of its parts
  can;
* `argumentSheet`, `resultSheet`, `refinementSheet`, `defineSheet`,
  `fieldSheet`, `definitionSheet`: the sheets that records are written
  as, all of them clear.
-/
import ApiBook.Proofs.Json.RoundTrip
import ApiBook.Record.Decode
import ApiBook.Record.Encode
import Mathlib.Data.List.Basic

namespace ApiBook.Record

/-- The parts of a record, each with its value if it has one. -/
abbrev Sheet := List (Key × Option Value)

namespace Sheet

/-- A sheet in the document format. -/
def members (s : Sheet) : Members :=
  s.flatMap fun p => Naming.exported.part? p.1 p.2

/-- Whether two parts are never found under the spelling of each other. -/
def Apart (j k : Key) : Prop :=
  j.exported ≠ k.exported ∧ j.exported ≠ k.long ∧ j.long ≠ k.exported

instance : DecidableRel Apart := fun j k => by unfold Apart; infer_instance

/-- Whether the parts of a sheet are all apart. -/
def Clear (s : Sheet) : Prop := (s.map Prod.fst).Pairwise Apart

variable {s : Sheet} {k : Key} {o : Option Value}

/-- Being apart goes both ways. -/
lemma Apart.symm {j k : Key} (h : Apart j k) : Apart k j :=
  ⟨h.1.symm, h.2.2.symm, h.2.1.symm⟩

/-- The members of a sheet are its parts that have a value. -/
lemma mem_members {name : Text} {v : Value} :
    (name, v) ∈ s.members ↔
      ∃ j, (j, some v) ∈ s ∧ name = .ofString j.exported := by
  simp only [members, List.mem_flatMap, Prod.exists]
  constructor
  · rintro ⟨j, _ | w, hmem, h⟩
    · exact absurd h List.not_mem_nil
    · obtain ⟨rfl, rfl⟩ := Prod.mk.inj (List.mem_singleton.mp h)
      exact ⟨j, hmem, rfl⟩
  · rintro ⟨j, hmem, rfl⟩
    exact ⟨j, some v, hmem, List.mem_singleton.mpr rfl⟩

/-- Each part of a clear sheet is apart from all the others. -/
lemma eq_or_apart (hs : s.Clear) {p : Key × Option Value} (hp : p ∈ s)
    (h : (k, o) ∈ s) : p = (k, o) ∨ Apart p.1 k := by
  induction s with
  | nil => exact absurd h List.not_mem_nil
  | cons q s ih =>
    obtain ⟨hq, hrest⟩ := List.pairwise_cons.mp hs
    rcases List.mem_cons.mp hp with rfl | hp'
    · rcases List.mem_cons.mp h with h' | h'
      · exact Or.inl h'.symm
      · exact Or.inr (hq k (List.mem_map_of_mem h'))
    · rcases List.mem_cons.mp h with rfl | h'
      · exact Or.inr (hq p.1 (List.mem_map_of_mem hp')).symm
      · exact ih hrest hp' h'

/-- No two members of a clear sheet have the same name. -/
lemma nodup_names (hs : s.Clear) : (s.members.map Prod.fst).Nodup := by
  induction s with
  | nil => exact List.nodup_nil
  | cons p s ih =>
    obtain ⟨hp, hrest⟩ := List.pairwise_cons.mp hs
    obtain ⟨j, _ | v⟩ := p
    · exact ih hrest
    · refine List.nodup_cons.mpr ⟨fun hmem => ?_, ih hrest⟩
      obtain ⟨⟨name, w⟩, hw, hname⟩ := List.mem_map.mp hmem
      obtain ⟨i, hi, rfl⟩ := mem_members.mp hw
      exact (hp i (List.mem_map_of_mem hi)).1
        (Text.ofString_inj.mp hname.symm)

/-- Each part of a clear sheet is found with its own value. -/
theorem find?_members (hs : s.Clear) (h : (k, o) ∈ s) :
    k.find? s.members = o.map fun v => (k.exported, v) := by
  cases o with
  | some v =>
    have hmem : (Text.ofString k.exported, v) ∈ s.members :=
      mem_members.mpr ⟨k, h, rfl⟩
    rw [Key.find?, Members.get?_of_mem (nodup_names hs) hmem]
    rfl
  | none =>
    -- any other part is apart from this one, which is left out
    have hnot : ∀ name : String, name = k.exported ∨ name = k.long →
        Members.get? name s.members = none := by
      intro name hname
      refine Members.get?_of_not_mem fun hmem => ?_
      obtain ⟨⟨_, w⟩, hw, he⟩ := List.mem_map.mp hmem
      obtain ⟨j, hj, rfl⟩ := mem_members.mp hw
      have he : j.exported = name := Text.ofString_inj.mp he
      rcases eq_or_apart hs hj h with heq | hapart
      · exact absurd (Prod.mk.inj heq).2 (by simp)
      · rcases hname with hname | hname
        · exact hapart.1 (he.trans hname)
        · exact hapart.2.1 (he.trans hname)
    rw [Key.find?, hnot _ (Or.inl rfl)]
    simp only [hnot _ (Or.inr rfl), Option.map_none]

/-! ### Reading parts -/

section Read

variable {α : Type} {read : Value → Checked α} {a : α} {v : Value}

/-- A part that has to be there is read back if its value is. -/
theorem required_members (hs : s.Clear) (h : (k, some v) ∈ s)
    (hv : read v = .valid a) : required k read s.members = .valid a := by
  simp only [required, find?_members hs h, Option.map_some, hv,
    Checked.under]

/-- A part that may be left out is read back if its value is, or stands
for what it was left out for. -/
theorem optional_members (hs : s.Clear) (h : (k, o) ∈ s) {absent : α}
    (hnone : o = none → absent = a)
    (hsome : ∀ v, o = some v → read v = .valid a) :
    optional k absent read s.members = .valid a := by
  rw [optional, find?_members hs h]
  cases o with
  | none => rw [Option.map_none, hnone rfl]
  | some v => simp only [Option.map_some, hsome v rfl, Checked.under]

end Read

/-! ### Writing sheets -/

/-- A sheet can be told from its text if the values of its parts can. -/
theorem writable_members (hs : s.Clear) {d : ℕ}
    (h : ∀ p ∈ s, ∀ v ∈ p.2, Json.Writable d v) :
    Json.Writable (d + 1) (.object s.members) := by
  refine .object (nodup_names hs) fun m hm => ?_
  obtain ⟨j, hj, -⟩ := mem_members.mp hm
  exact h _ hj _ rfl

end Sheet

/-! ### Sheets of records -/

/-- A part with a value is a part that may have none. -/
lemma part_eq_part? (n : Naming) (k : Key) (v : Value) :
    n.part k v = n.part? k (some v) := rfl

/-- Every part of a sheet is on it. -/
lemma Sheet.forall_mem (s : Sheet) : s.Forall (· ∈ s) :=
  List.forall_iff_forall_mem.mpr fun _ h => h

/-- The parts of a parameter. -/
def argumentSheet (a : Argument) : Sheet := [
  (.start, some (.int a.span.start)), (.finish, some (.int a.span.finish)),
  (.name, a.name.map .text), (.kind, some (.text a.kind.spelling)),
  (.view, some (.text a.view)), (.description, a.description.map .text),
  (.rawDescription, a.rawDescription.map .text)]

lemma exported_argument (a : Argument) :
    Naming.exported.argument a = .object (argumentSheet a).members := by
  simp only [Naming.argument, Naming.span, Naming.kind, Naming.descriptions,
    Naming.text?, part_eq_part?, Sheet.members, argumentSheet,
    List.flatMap_cons, List.flatMap_nil, List.append_assoc, List.append_nil]

lemma clear_argumentSheet (a : Argument) : (argumentSheet a).Clear := by
  change [Key.start, .finish, .name, .kind, .view, .description,
    .rawDescription].Pairwise Sheet.Apart
  decide

/-- The parts of a result. -/
def resultSheet (r : Return) : Sheet := [
  (.name, r.name.map .text), (.kind, some (.text r.kind.spelling)),
  (.view, some (.text r.view)), (.description, r.description.map .text),
  (.rawDescription, r.rawDescription.map .text)]

lemma exported_result (r : Return) :
    Naming.exported.result r = .object (resultSheet r).members := by
  simp only [Naming.result, Naming.kind, Naming.descriptions, Naming.text?,
    part_eq_part?, Sheet.members, resultSheet, List.flatMap_cons,
    List.flatMap_nil, List.append_assoc, List.append_nil]

lemma clear_resultSheet (r : Return) : (resultSheet r).Clear := by
  change [Key.name, .kind, .view, .description,
    .rawDescription].Pairwise Sheet.Apart
  decide

/-- The parts of a refinement. -/
def refinementSheet (e : Extend) : Sheet := [
  (.start, some (.int e.span.start)), (.finish, some (.int e.span.finish)),
  (.kind, some (.text e.kind.spelling)), (.view, some (.text e.view)),
  (.description, e.description.map .text),
  (.rawDescription, e.rawDescription.map .text),
  (.args, e.args.map fun as => .list (as.map Naming.exported.argument)),
  (.returns, e.returns.map fun rs => .list (rs.map Naming.exported.result))]

lemma exported_refinement (e : Extend) :
    Naming.exported.refinement e = .object (refinementSheet e).members := by
  simp only [Naming.refinement, Naming.span, Naming.kind,
    Naming.descriptions, Naming.text?, part_eq_part?, Sheet.members,
    refinementSheet, List.flatMap_cons, List.flatMap_nil, List.append_assoc,
    List.append_nil]

lemma clear_refinementSheet (e : Extend) : (refinementSheet e).Clear := by
  change [Key.start, .finish, .kind, .view, .description, .rawDescription,
    .args, .returns].Pairwise Sheet.Apart
  decide

/-- The parts of a place. -/
def defineSheet (d : Define) : Sheet := [
  (.start, some (.int d.span.start)), (.finish, some (.int d.span.finish)),
  (.kind, some (.text d.kind.spelling)), (.file, some (.text d.file)),
  (.refinements,
    some (.list (d.refinements.map Naming.exported.refinement)))]

lemma exported_define (d : Define) :
    Naming.exported.define d = .object (defineSheet d).members := by
  simp only [Naming.define, Naming.span, Naming.kind, Naming.refinements,
    part_eq_part?, Sheet.members, defineSheet, List.flatMap_cons,
    List.flatMap_nil, List.append_assoc, List.append_nil]

lemma clear_defineSheet (d : Define) : (defineSheet d).Clear := by
  change [Key.start, .finish, .kind, .file,
    .refinements].Pairwise Sheet.Apart
  decide

/-- The parts of a member. -/
def fieldSheet (f : Field) : Sheet := [
  (.start, some (.int f.span.start)), (.finish, some (.int f.span.finish)),
  (.name, some (.text f.name)), (.kind, some (.text f.kind.spelling)),
  (.file, some (.text f.file)), (.description, f.description.map .text),
  (.rawDescription, f.rawDescription.map .text),
  (.visible, f.visible.map .text),
  (.refinements,
    some (.list (f.refinements.map Naming.exported.refinement)))]

lemma exported_field (f : Field) :
    Naming.exported.field f = .object (fieldSheet f).members := by
  simp only [Naming.field, Naming.span, Naming.kind, Naming.descriptions,
    Naming.refinements, Naming.text?, part_eq_part?, Sheet.members,
    fieldSheet, List.flatMap_cons, List.flatMap_nil, List.append_assoc,
    List.append_nil]

lemma clear_fieldSheet (f : Field) : (fieldSheet f).Clear := by
  change [Key.start, .finish, .name, .kind, .file, .description,
    .rawDescription, .visible, .refinements].Pairwise Sheet.Apart
  decide

/-- The parts of a definition. -/
def definitionSheet (d : Definition) : Sheet := [
  (.name, some (.text d.name)), (.kind, some (.text d.kind.spelling)),
  (.description, d.description.map .text),
  (.rawDescription, d.rawDescription.map .text),
  (.defines, some (.list (d.defines.map Naming.exported.define))),
  (.fields, some (.list (d.fields.map Naming.exported.field)))]

lemma exported_definition (d : Definition) :
    Naming.exported.definition d = .object (definitionSheet d).members := by
  simp only [Naming.definition, Naming.kind, Naming.descriptions,
    Naming.text?, part_eq_part?, Sheet.members, definitionSheet,
    List.flatMap_cons, List.flatMap_nil, List.append_assoc, List.append_nil]

lemma clear_definitionSheet (d : Definition) : (definitionSheet d).Clear := by
  change [Key.name, .kind, .description, .rawDescription, .defines,
    .fields].Pairwise Sheet.Apart
  decide

end ApiBook.Record
