/-
Settings by keys with dots.

* `Config.parts_append`: the names in a key with another key behind it;
* `settingAt?_putAt_append`, `settingAt?_putAt_of_not_prefix`: the settings
  at all rows of names after one is put at the end of a row;
* `Unshared`: no table that a row of names leads through is shared;
  `put_eq_of_unshared`: then a setting is put nowhere else;
* `IsTree`: no table of a configuration stands in several places;
* `get_set_of_isTree`: **a configuration is a map of keys**: a setting at a
  key is found there, what lies below it is found inside it, and other keys
  are not concerned.
-/
import ApiBook.Config.Basic
import ApiBook.Proofs.Setting.Table
import ApiBook.Proofs.Text.Separated

namespace ApiBook.Config

open Setting (Reordered)

/-! ### Keys -/

/-- The names in two keys with a dot between them. -/
lemma parts_append (k k' : Text) :
    parts (k ++ "." ++ k') = parts k ++ parts k' :=
  Text.splitText_append rfl k k'

/-- A key has a name at least. -/
lemma parts_ne_nil (k : Text) : parts k ≠ [] :=
  Text.splitText_ne_nil _ k

/-! ### Settings at rows of names -/

/-- What lies below a table, whatever it stands for. -/
lemma settingAt?_of_entries? {v : Setting} {es : Table}
    (h : v.entries? = some es) (name : Text) (names : List Text) :
    settingAt? (name :: names) v =
      settingAt? (name :: names) (.table es) := by
  rw [settingAt?, settingAt?, h]
  rfl

/-- Below what is no table nothing lies. -/
lemma settingAt?_of_entries?_eq_none {v : Setting} (h : v.entries? = none)
    (name : Text) (names : List Text) :
    settingAt? (name :: names) v = none := by
  rw [settingAt?, h]
  rfl

/-- The setting at the end of a row of names is that at the end of the
rest of the row, in what the first name stands for. -/
lemma settingAt?_cons (name : Text) (names : List Text) (es : Table) :
    settingAt? (name :: names) (.table es) =
      (Table.get? name es).bind (settingAt? names) := rfl

/-- The setting that takes the place of the first of a row of names when
one is put at the end of the row. -/
def slot (value : Setting) (name : Text) (names : List Text)
    (es : Table) : Setting :=
  match names with
  | [] => value
  | next :: names =>
    .table (putAt value (next :: names) (sectionOf name es))

/-- A setting is put at the end of a row by putting another one at its
first name. -/
lemma putAt_cons (value : Setting) (name : Text) (names : List Text)
    (es : Table) :
    putAt value (name :: names) es =
      es.put (.text name) (slot value name names es) := by
  cases names <;> rfl

variable {value : Setting} {names others : List Text} {es : Table}

/-- A setting is found where it is put, and below that lies what lies
inside it. -/
lemma settingAt?_putAt_append (hne : names ≠ []) (rest : List Text) :
    settingAt? (names ++ rest) (.table (putAt value names es)) =
      settingAt? rest value := by
  induction names generalizing es with
  | nil => exact absurd rfl hne
  | cons name names ih =>
    rw [List.cons_append, settingAt?_cons, putAt_cons, Table.get?_put_self,
      Option.bind_some]
    cases names with
    | nil => rfl
    | cons next names =>
      exact ih (List.cons_ne_nil _ _)

/-! ### Shared tables -/

/-- No table that a row of names leads through is shared. -/
def Unshared : List Text → Table → Prop
  | name :: next :: names, es =>
    (∀ mark fs, Table.get? name es ≠ some (.shared mark fs)) ∧
      Unshared (next :: names) (sectionOf name es)
  | _, _ => True

/-- What lies below a name lies in the section of that name, if that is not
shared. -/
lemma settingAt?_sectionOf {name : Text}
    (h : ∀ mark fs, Table.get? name es ≠ some (.shared mark fs))
    (next : Text) (names : List Text) :
    settingAt? (name :: next :: names) (.table es) =
      settingAt? (next :: names) (.table (sectionOf name es)) := by
  rw [settingAt?_cons, sectionOf]
  cases hv : Table.get? name es with
  | none => rfl
  | some v =>
    cases v with
    | shared mark fs => exact absurd hv (h mark fs)
    | _ => rfl

/-- At the end of a row that does not begin with the names of the other
one, nor the other way round, nothing changes. -/
lemma settingAt?_putAt_of_not_prefix (hnames : Unshared names es)
    (h : ¬ names <+: others) (h' : ¬ others <+: names) :
    settingAt? others (.table (putAt value names es)) =
      settingAt? others (.table es) := by
  induction names generalizing others es with
  | nil => exact absurd List.nil_prefix h
  | cons name names ih =>
    cases others with
    | nil => exact absurd List.nil_prefix h'
    | cons other others =>
      rw [putAt_cons]
      by_cases heq : other = name
      · subst heq
        rw [List.cons_prefix_cons, and_iff_right rfl] at h h'
        -- both rows go on, as neither is the beginning of the other
        obtain ⟨next, names, rfl⟩ := List.exists_cons_of_ne_nil
          fun hnil : names = [] => h (hnil ▸ List.nil_prefix)
        obtain ⟨first, others, rfl⟩ := List.exists_cons_of_ne_nil
          fun hnil : others = [] => h' (hnil ▸ List.nil_prefix)
        rw [settingAt?_cons, Table.get?_put_self, Option.bind_some, slot,
          ih hnames.2 h h', settingAt?_sectionOf hnames.1]
      · rw [settingAt?_cons, settingAt?_cons, Table.get?_put_of_ne heq]

/-- Through what is no table no row of names leads. -/
lemma lastShared?_of_entries?_eq_none {v : Setting}
    (h : v.entries? = none) (names : List Text) :
    lastShared? names v = none := by
  have hmark : mark? v = none := by
    cases v with
    | shared mark fs => exact nomatch h
    | _ => rfl
  match names with
  | [] => rfl
  | [_] => rw [lastShared?, hmark]; rfl
  | _ :: _ :: _ => rw [lastShared?, hmark, h]; rfl

/-- Where no table on the way is shared, there is no last one. -/
lemma lastShared?_of_unshared (h : Unshared names es) :
    lastShared? names (.table es) = none := by
  induction names generalizing es with
  | nil => rfl
  | cons name names ih =>
    cases names with
    | nil => rfl
    | cons next names =>
      obtain ⟨hname, hbelow⟩ := h
      have hnext : (Table.get? name es).bind
          (lastShared? (next :: names)) = none := by
        rw [sectionOf] at hbelow
        cases hv : Table.get? name es with
        | none => rfl
        | some v =>
          rw [hv] at hbelow
          cases v with
          | shared mark fs => exact absurd hv (hname mark fs)
          | table fs => exact ih hbelow
          | _ => exact lastShared?_of_entries?_eq_none rfl _
      rw [lastShared?, Setting.entries?, Option.bind_some, hnext]
      rfl

/-- Where no table on the way is shared, a setting is put nowhere else. -/
lemma put_eq_of_unshared {c : Config} (h : Unshared names c.root) :
    c.put names value = ⟨putAt value names c.root⟩ := by
  rw [put, lastShared?_of_unshared h]

/-- In a section of a table without shared tables there are none. -/
lemma marksOfEntries_sectionOf (h : Setting.marksOfEntries es = [])
    (name : Text) : Setting.marksOfEntries (sectionOf name es) = [] := by
  rw [sectionOf]
  cases hv : Table.get? name es with
  | none => rfl
  | some v =>
    have hmarks := Setting.marks_of_find? h hv
    cases v with
    | table fs => rwa [Setting.marks] at hmarks
    | shared mark fs => simp [Setting.marks] at hmarks
    | _ => rfl

/-- In a table without shared tables no row of names leads through one. -/
lemma unshared_of_marks (h : Setting.marksOfEntries es = [])
    (names : List Text) : Unshared names es := by
  induction names generalizing es with
  | nil => trivial
  | cons name names ih =>
    cases names with
    | nil => trivial
    | cons next names =>
      refine ⟨fun mark fs hv => ?_, ih (marksOfEntries_sectionOf h name)⟩
      simpa [Setting.marks] using Setting.marks_of_find? h hv

/-- A row leads through no shared table after a setting is put at the end
of a row that is not its beginning, nor the other way round: whatever that
setting is, the row does not lead into it. -/
lemma Unshared.putAt (h : ¬ names <+: others) (h' : ¬ others <+: names)
    (hnames : Unshared names es) (hothers : Unshared others es) :
    Unshared others (putAt value names es) := by
  induction names generalizing others es with
  | nil => exact absurd List.nil_prefix h
  | cons name names ih =>
    match others, hothers with
    | [], _ => trivial
    | [_], _ => trivial
    | other :: first :: others, ⟨hother, hothers⟩ =>
      rw [putAt_cons]
      by_cases heq : other = name
      · subst heq
        rw [List.cons_prefix_cons, and_iff_right rfl] at h h'
        obtain ⟨next, names, rfl⟩ := List.exists_cons_of_ne_nil
          fun hnil : names = [] => h (hnil ▸ List.nil_prefix)
        refine ⟨fun mark fs => ?_, ?_⟩
        · rw [Table.get?_put_self]
          exact fun hshared => nomatch hshared
        · rw [sectionOf, Table.get?_put_self]
          exact ih h h' hnames.2 hothers
      · refine ⟨fun mark fs => ?_, ?_⟩
        · rw [Table.get?_put_of_ne heq]
          exact hother mark fs
        · rw [sectionOf, Table.get?_put_of_ne heq]
          exact hothers

/-! ### Settings at two keys -/

/-- What takes the place of a name depends on what stands there only. -/
lemma slot_congr {name : Text} {fs : Table}
    (h : Table.get? name es = Table.get? name fs) :
    slot value name names es = slot value name names fs := by
  cases names with
  | nil => rfl
  | cons next names => rw [slot, slot, sectionOf, sectionOf, h]

/-- Settings are put at the end of two rows in any order, if neither row
is the beginning of the other. -/
lemma reordered_putAt_comm {u v : Setting} (h : ¬ names <+: others)
    (h' : ¬ others <+: names) (hnames : Unshared names es)
    (hothers : Unshared others es) :
    Reordered (.table (putAt v others (putAt u names es)))
      (.table (putAt u names (putAt v others es))) := by
  induction names generalizing others es with
  | nil => exact absurd List.nil_prefix h
  | cons name names ih =>
    cases others with
    | nil => exact absurd List.nil_prefix h'
    | cons other others =>
      simp only [putAt_cons]
      by_cases heq : other = name
      · subst heq
        rw [List.cons_prefix_cons, and_iff_right rfl] at h h'
        obtain ⟨next, names, rfl⟩ := List.exists_cons_of_ne_nil
          fun hnil : names = [] => h (hnil ▸ List.nil_prefix)
        obtain ⟨first, others, rfl⟩ := List.exists_cons_of_ne_nil
          fun hnil : others = [] => h' (hnil ▸ List.nil_prefix)
        -- both are put in the section of the first name
        have hslot : ∀ w t next' names', slot w other (next' :: names')
            (es.put (.text other) (.table t)) =
              .table (Config.putAt w (next' :: names') t) := by
          intro w t next' names'
          rw [slot, sectionOf, Table.get?_put_self]
        have hfirst : ∀ w next' names', slot w other (next' :: names') es =
            .table (Config.putAt w (next' :: names') (sectionOf other es)) :=
          fun _ _ _ => rfl
        rw [hfirst, hfirst, hslot, hslot, Table.put_put, Table.put_put]
        exact (ih h h' hnames.2 hothers.2).put other es
      · rw [slot_congr (Table.get?_put_of_ne heq _ es),
          slot_congr (Table.get?_put_of_ne (Ne.symm heq) _ es)]
        exact Setting.reordered_put_comm (Ne.symm heq) _ _ es

/-! ### Configurations without shared tables -/

/-- No table of a configuration stands in several places. -/
def IsTree (c : Config) : Prop := Setting.marksOfEntries c.root = []

instance (c : Config) : Decidable c.IsTree := by
  unfold IsTree; infer_instance

/-- **A configuration is a map of keys.** Let no table of a configuration
stand in several places, and let a setting be set at a key, whatever stands
there or on the way. Then it is what is found at the key; at a key that
goes on after it, what is found is found in the setting by the rest of the
key; and at a key whose names are not the beginning of the names of the
first one, nor the other way round, nothing changes. So settings are set at
two such keys in any order, but for the order of the entries of tables. -/
theorem get_set_of_isTree {c : Config} (hc : c.IsTree) (k : Text)
    (v : Setting) :
    (∀ d, (c.set k v).get k d = v) ∧
    (∀ k' d, (c.set k v).get (k ++ "." ++ k') d =
      match v.entries? with
      | some es => (Config.mk es).get k' d
      | none => d) ∧
    ∀ k', ¬ parts k <+: parts k' → ¬ parts k' <+: parts k →
      (∀ d, (c.set k v).get k' d = c.get k' d) ∧
      ∀ w, Reordered (.table ((c.set k v).set k' w).root)
        (.table ((c.set k' w).set k v).root) := by
  have hunshared := unshared_of_marks hc
  have hset : ∀ k u, c.set k u = ⟨putAt u (parts k) c.root⟩ := fun k u =>
    put_eq_of_unshared (hunshared _)
  refine ⟨fun d => ?_, fun k' d => ?_, fun k' h h' => ⟨fun d => ?_,
    fun w => ?_⟩⟩
  · have hat : settingAt? (parts k ++ [])
        (.table (putAt v (parts k) c.root)) = some v :=
      settingAt?_putAt_append (parts_ne_nil k) []
    rw [List.append_nil] at hat
    rw [get, get?, hset, hat]
    rfl
  · obtain ⟨name, names, hparts⟩ :=
      List.exists_cons_of_ne_nil (parts_ne_nil k')
    rw [get, get?, hset, parts_append,
      settingAt?_putAt_append (parts_ne_nil k), hparts]
    cases hv : v.entries? with
    | none => rw [settingAt?_of_entries?_eq_none hv, Option.getD_none]
    | some es => rw [settingAt?_of_entries? hv, ← hparts]; rfl
  · rw [get, get?, hset, settingAt?_putAt_of_not_prefix (hunshared _) h h']
    rfl
  · have hthen : ((c.set k v).set k' w).root =
        putAt w (parts k') (putAt v (parts k) c.root) := by
      rw [hset k v, set, put_eq_of_unshared
        ((hunshared _).putAt h h' (hunshared _))]
    have hother : ((c.set k' w).set k v).root =
        putAt v (parts k) (putAt w (parts k') c.root) := by
      rw [hset k' w, set, put_eq_of_unshared
        ((hunshared _).putAt h' h (hunshared _))]
    rw [hthen, hother]
    exact reordered_putAt_comm h h' (hunshared _) (hunshared _)

/-- In the defaults, a nesting depth of null gives way to a table, in which
null is set. It is found there, below it there is nothing, and the command
of the exporter stays, which may be set before or after. -/
theorem get_set_of_isTree_defaults :
    defaults.IsTree ∧
      let c := defaults.set "book.nav_depth.deep" .null
      c.get "book.nav_depth.deep" (.int 1) = .null ∧
        c.get "book.nav_depth.deep.x" (.int 1) = .int 1 ∧
        c.get "luals.command" .null = .text "lua-language-server" ∧
        Reordered (.table (c.set "luals.command" (.text "luals")).root)
          (.table ((defaults.set "luals.command" (.text "luals")).set
            "book.nav_depth.deep" .null).root) := by
  have htree : defaults.IsTree := by decide
  have h := get_set_of_isTree htree "book.nav_depth.deep" .null
  have hother := h.2.2 "luals.command" (by decide) (by decide)
  exact ⟨htree, h.1 _, h.2.1 "x" _, (hother.1 _).trans rfl, hother.2 _⟩

end ApiBook.Config
