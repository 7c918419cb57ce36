/-
Records are read back from the values they are written as.

* `required_offset`, `required_kind`, `required_text`, `optional_text`,
  `optional_list?`, `optional_list`, `optional_objects`: the forms of
  parts, each read back from a sheet;
* `readDefinition_exported`: every definition is read back, and so is
  every record inside it;
* `readDefinitions_exported`: a document is read back from its value.
-/
import ApiBook.Proofs.Record.Sheet

namespace ApiBook.Record

/-! ### Checked parts -/

namespace Checked

variable {α β : Type}

/-- A function of a part that fits. -/
lemma map_valid (f : α → β) (a : α) : f <$> valid a = valid (f a) := rfl

/-- A function that fits of a part that fits. -/
lemma seq_valid (f : α → β) (a : α) : valid f <*> valid a = valid (f a) := rfl

/-- A last check is the outcome where all parts fit. -/
lemma join_valid (c : Checked α) : join (valid c) = c := rfl

/-- The items of a list are read back if each of them is. -/
lemma items_map {check : Value → Checked α} {write : α → Value}
    {as : List α} (h : ∀ a ∈ as, check (write a) = valid a) :
    items check (as.map write) = valid as := by
  have hfrom : ∀ i, itemsFrom check i (as.map write) = valid as := by
    induction as with
    | nil => exact fun _ => rfl
    | cons a as ih =>
      intro i
      obtain ⟨ha, has⟩ := List.forall_mem_cons.mp h
      rw [List.map_cons, itemsFrom, ha, ih has (i + 1)]
      rfl
  exact hfrom 0

end Checked

/-! ### Parts of records -/

/-- A number that is not negative is an offset. -/
lemma readOffset_int (n : ℕ) : readOffset (.int n) = .valid n := by
  have h : (0 : ℤ) ≤ n := Int.natCast_nonneg n
  simp only [readOffset, readInteger, Checked.map_valid, Checked.join_valid,
    toOffset, if_pos h, Int.toNat_natCast]

/-- A kind is read back from its spelling. -/
lemma readKind_spelling (k : Kind) :
    readKind (.text k.spelling) = .valid k := by
  simp only [readKind, kindOf?, Kind.ofSpelling?_spelling]

/-- The range of a record passes the last check. -/
lemma spanned_self {α : Type} (s : Span) (make : Span → α) :
    spanned s.start s.finish make = .valid (make s) :=
  dif_pos s.ordered

section Parts

variable {s : Sheet} {k : Key}

/-- An offset is read back from a sheet. -/
lemma required_offset (hs : s.Clear) {n : ℕ}
    (h : (k, some (.int n)) ∈ s) :
    required k readOffset s.members = .valid n :=
  Sheet.required_members hs h (readOffset_int n)

/-- A kind is read back from a sheet. -/
lemma required_kind (hs : s.Clear) {c : Kind}
    (h : (k, some (.text c.spelling)) ∈ s) :
    required k readKind s.members = .valid c :=
  Sheet.required_members hs h (readKind_spelling c)

/-- A text is read back from a sheet. -/
lemma required_text (hs : s.Clear) {t : Text}
    (h : (k, some (.text t)) ∈ s) :
    required k readText s.members = .valid t :=
  Sheet.required_members hs h rfl

/-- A text that may be left out is read back from a sheet. -/
lemma optional_text (hs : s.Clear) {t : Option Text}
    (h : (k, t.map .text) ∈ s) :
    optional k none readText? s.members = .valid t := by
  refine Sheet.optional_members hs h (fun ht => ?_) fun v hv => ?_
  · exact (Option.map_eq_none_iff.mp ht).symm
  · obtain ⟨w, rfl, rfl⟩ := Option.map_eq_some_iff.mp hv
    rfl

variable {α : Type} {read : Value → Checked α} {write : α → Value}

/-- A list that may be left out, and may be empty, is read back from a
sheet. -/
lemma optional_list? (hs : s.Clear)
    (hread : ∀ a, read (write a) = .valid a) {as : Option (List α)}
    (h : (k, as.map fun as => .list (as.map write)) ∈ s) :
    optional k none (readList? read) s.members = .valid as := by
  refine Sheet.optional_members hs h (fun has => ?_) fun v hv => ?_
  · exact (Option.map_eq_none_iff.mp has).symm
  · obtain ⟨as, rfl, rfl⟩ := Option.map_eq_some_iff.mp hv
    rw [readList?, readList, Checked.items_map fun a _ => hread a]
    · rfl
    · exact fun h => Value.noConfusion h

/-- A list is read back from a sheet. -/
lemma optional_list (hs : s.Clear)
    (hread : ∀ a, read (write a) = .valid a) {as : List α}
    (h : (k, some (.list (as.map write))) ∈ s) :
    optional k [] (readList read) s.members = .valid as := by
  refine Sheet.optional_members hs h (fun hn => nomatch hn) fun v hv => ?_
  obtain rfl := Option.some.inj hv
  exact Checked.items_map fun a _ => hread a

/-- A list of objects is read back from a sheet. -/
lemma optional_objects (hs : s.Clear)
    (hread : ∀ a, read (write a) = .valid a) {as : List α}
    (h : (k, some (.list (as.map write))) ∈ s) :
    optional k [] (readObjects read) s.members = .valid as := by
  refine Sheet.optional_members hs h (fun hn => nomatch hn) fun v hv => ?_
  obtain rfl := Option.some.inj hv
  exact Checked.items_map fun a _ => hread a

end Parts

/-! ### Records read back -/

/-- A parameter is read back. -/
theorem readArgument_exported (a : Argument) :
    readArgument (Naming.exported.argument a) = .valid a := by
  have hs := clear_argumentSheet a
  obtain ⟨hstart, hfinish, hname, hkind, hview, hdescription, hraw⟩ :=
    (argumentSheet a).forall_mem
  rw [exported_argument, readArgument, readRecord]
  simp only [required_offset hs hstart, required_offset hs hfinish,
    optional_text hs hname, required_kind hs hkind, required_text hs hview,
    optional_text hs hdescription, optional_text hs hraw,
    Checked.map_valid, Checked.seq_valid, Checked.join_valid, spanned_self]

/-- A result is read back. -/
theorem readReturn_exported (r : Return) :
    readReturn (Naming.exported.result r) = .valid r := by
  have hs := clear_resultSheet r
  obtain ⟨hname, hkind, hview, hdescription, hraw⟩ :=
    (resultSheet r).forall_mem
  rw [exported_result, readReturn, readRecord]
  simp only [optional_text hs hname, required_kind hs hkind,
    required_text hs hview, optional_text hs hdescription,
    optional_text hs hraw, Checked.map_valid, Checked.seq_valid]

/-- A refinement is read back. -/
theorem readExtend_exported (e : Extend) :
    readExtend (Naming.exported.refinement e) = .valid e := by
  have hs := clear_refinementSheet e
  obtain ⟨hstart, hfinish, hkind, hview, hdescription, hraw, hargs,
    hreturns⟩ := (refinementSheet e).forall_mem
  rw [exported_refinement, readExtend, readRecord]
  simp only [required_offset hs hstart, required_offset hs hfinish,
    required_kind hs hkind, required_text hs hview,
    optional_text hs hdescription, optional_text hs hraw,
    optional_list? hs readArgument_exported hargs,
    optional_list? hs readReturn_exported hreturns,
    Checked.map_valid, Checked.seq_valid, Checked.join_valid, spanned_self]

/-- A place is read back. -/
theorem readDefine_exported (d : Define) :
    readDefine (Naming.exported.define d) = .valid d := by
  have hs := clear_defineSheet d
  obtain ⟨hstart, hfinish, hkind, hfile, hrefinements⟩ :=
    (defineSheet d).forall_mem
  rw [exported_define, readDefine, readRecord]
  simp only [required_offset hs hstart, required_offset hs hfinish,
    required_kind hs hkind, required_text hs hfile,
    optional_objects hs readExtend_exported hrefinements,
    Checked.map_valid, Checked.seq_valid, Checked.join_valid, spanned_self]

/-- A member is read back. -/
theorem readField_exported (f : Field) :
    readField (Naming.exported.field f) = .valid f := by
  have hs := clear_fieldSheet f
  obtain ⟨hstart, hfinish, hname, hkind, hfile, hdescription, hraw,
    hvisible, hrefinements⟩ := (fieldSheet f).forall_mem
  rw [exported_field, readField, readRecord]
  simp only [required_offset hs hstart, required_offset hs hfinish,
    required_text hs hname, required_kind hs hkind, required_text hs hfile,
    optional_text hs hdescription, optional_text hs hraw,
    optional_text hs hvisible,
    optional_objects hs readExtend_exported hrefinements,
    Checked.map_valid, Checked.seq_valid, Checked.join_valid, spanned_self]

/-- A definition is read back. -/
theorem readDefinition_exported (d : Definition) :
    readDefinition (Naming.exported.definition d) = .valid d := by
  have hs := clear_definitionSheet d
  obtain ⟨hname, hkind, hdescription, hraw, hdefines, hfields⟩ :=
    (definitionSheet d).forall_mem
  rw [exported_definition, readDefinition, readRecord]
  simp only [required_text hs hname, required_kind hs hkind,
    optional_text hs hdescription, optional_text hs hraw,
    optional_list hs readDefine_exported hdefines,
    optional_list hs readField_exported hfields,
    Checked.map_valid, Checked.seq_valid]

/-- A list of definitions is read back. -/
theorem readDefinitions_exported (ds : List Definition) :
    readDefinitions (Naming.exported.definitions ds) = .valid ds :=
  Checked.items_map fun d _ => readDefinition_exported d

end ApiBook.Record
