/-
Settings over other settings, path by path.

* `Setting.at?`: the setting at the end of a path of keys; `get?_eq_at?`:
  a key with dots is such a path;
* `Blocks`: on the way along a path stands what is no table;
  `blocks_cons_iff`: step by step;
* `at?_mergeEntries`: the setting at a path, with entries over other
  entries;
* `Settled`: settings that change nothing when they are merged once more;
  `settled_of_keyed`: all are in which no table holds a key twice;
* `at?_merge`: **settings are merged path by path**, and once is enough.
-/
import ApiBook.Proofs.Config.Merged

namespace ApiBook

/-- The setting at the end of a path of keys, each a key of the table
before. -/
def Setting.at? : List Scalar → Setting → Option Setting
  | [], v => some v
  | key :: path, v => (v.entries?.bind (Table.find? key)).bind (at? path)

/-- The setting of a configuration at the end of a path of keys. -/
def Config.at? (c : Config) (path : List Scalar) : Option Setting :=
  (Setting.table c.root).at? path

namespace Config

variable {base : Option Setting} {v : Setting} {es bs : Table}
  {key next : Scalar} {path : List Scalar}

/-! ### Paths -/

/-- The setting at the end of a row of names is that at the end of the path
of their texts. -/
lemma settingAt?_eq_at? (names : List Text) (v : Setting) :
    settingAt? names v = v.at? (names.map .text) := by
  induction names generalizing v with
  | nil => rfl
  | cons name names ih =>
    rw [settingAt?, List.map_cons, Setting.at?]
    exact congrArg _ (funext ih)

/-- The setting at a key with dots is that at the end of the path of the
names in the key. -/
lemma get?_eq_at? (c : Config) (k : Text) :
    c.get? k = c.at? ((parts k).map .text) :=
  settingAt?_eq_at? _ _

/-- The setting at the end of a path is that at the end of the rest of the
path, in what the first key stands for. -/
lemma at?_cons (key : Scalar) (path : List Scalar) (es : Table) :
    (Setting.table es).at? (key :: path) =
      (Table.find? key es).bind (Setting.at? path) := rfl

/-- The setting at the end of two paths, one after the other. -/
lemma at?_append (v : Setting) (path rest : List Scalar) :
    v.at? (path ++ rest) = (v.at? path).bind (Setting.at? rest) := by
  induction path generalizing v with
  | nil => rfl
  | cons key path ih =>
    rw [List.cons_append, Setting.at?, Setting.at?]
    cases v.entries?.bind (Table.find? key) with
    | none => rfl
    | some w => exact ih w

/-- What lies below a setting lies in its entries, if it has any. -/
lemma at?_eq_bind_entries? (v : Setting) (key : Scalar)
    (path : List Scalar) :
    v.at? (key :: path) =
      v.entries?.bind fun es => (Setting.table es).at? (key :: path) := by
  rw [Setting.at?]
  cases v.entries? <;> rfl

/-! ### What stands on the way -/

/-- Something that is no table stands in entries on the way along a path,
before its end. -/
def Blocks (es : Table) (path : List Scalar) : Prop :=
  ∃ before v, before ≠ [] ∧ before <+: path ∧ before ≠ path ∧
    (Setting.table es).at? before = some v ∧ v.entries? = none

/-- At a path there is nothing if something stands on the way. -/
lemma Blocks.at?_eq_none (h : Blocks es path) :
    (Setting.table es).at? path = none := by
  obtain ⟨before, v, -, ⟨rest, rfl⟩, hproper, hv, hleaf⟩ := h
  obtain ⟨key, rest, rfl⟩ := List.exists_cons_of_ne_nil
    fun hnil : rest = [] => hproper (by rw [hnil, List.append_nil])
  rw [at?_append, hv, Option.bind_some, at?_eq_bind_entries?, hleaf]
  rfl

/-- Nothing stands on the way along a path of one key. -/
lemma not_blocks_singleton (es : Table) (key : Scalar) :
    ¬ Blocks es [key] := by
  rintro ⟨before, v, hne, hprefix, hproper, -⟩
  rcases List.prefix_cons_iff.mp hprefix with rfl | ⟨rest, rfl, hrest⟩
  · exact hne rfl
  · exact hproper (by rw [List.prefix_nil.mp hrest])

/-- On the way along a path of several keys, what the first key stands for
is no table, or something stands on the way there. -/
lemma blocks_cons_iff :
    Blocks es (key :: next :: path) ↔ ∃ v, Table.find? key es = some v ∧
      ∀ fs, v.entries? = some fs → Blocks fs (next :: path) := by
  constructor
  · rintro ⟨before, w, hne, hprefix, hproper, hw, hleaf⟩
    obtain ⟨rest, rfl, hrest⟩ :=
      (List.prefix_cons_iff.mp hprefix).resolve_left hne
    rw [at?_cons, Option.bind_eq_some_iff] at hw
    obtain ⟨v, hv, hw⟩ := hw
    refine ⟨v, hv, fun fs hfs => ?_⟩
    cases rest with
    | nil =>
      rw [← Option.some.inj hw, hfs] at hleaf
      exact nomatch hleaf
    | cons k rest =>
      rw [at?_eq_bind_entries?, hfs] at hw
      exact ⟨k :: rest, w, List.cons_ne_nil _ _, hrest,
        fun heq => hproper (by rw [heq]), hw, hleaf⟩
  · rintro ⟨v, hv, h⟩
    cases hfs : v.entries? with
    | none =>
      exact ⟨[key], v, List.cons_ne_nil _ _, ⟨next :: path, rfl⟩, by simp,
        by rw [at?_cons, hv]; rfl, hfs⟩
    | some fs =>
      obtain ⟨before, w, hne, hprefix, hproper, hw, hleaf⟩ := h fs hfs
      obtain ⟨k, rest, rfl⟩ := List.exists_cons_of_ne_nil hne
      refine ⟨key :: k :: rest, w, List.cons_ne_nil _ _,
        List.cons_prefix_cons.mpr ⟨rfl, hprefix⟩, by simpa using hproper,
        ?_, hleaf⟩
      rw [at?_cons, hv, Option.bind_some, at?_eq_bind_entries?, hfs]
      exact hw

/-! ### Settings at paths -/

open Classical in
/-- The setting at a path, with entries over the entries of a tree: one that
is over what the tree has there, or none if something stands on the way, or
what the tree has. -/
lemma at?_mergeEntries (hbs : Setting.marksOfEntries bs = [])
    (hpath : path ≠ []) :
    (Setting.table (mergeEntries bs es)).at? path =
      match (Setting.table es).at? path with
      | some v => some (overlaid ((Setting.table bs).at? path) v)
      | none =>
        if Blocks es path then none else (Setting.table bs).at? path := by
  induction path generalizing bs es with
  | nil => exact absurd rfl hpath
  | cons key path ih =>
    cases path with
    | nil =>
      have hsingle : ∀ fs : Table,
          (Setting.table fs).at? [key] = Table.find? key fs :=
        fun fs => Option.bind_fun_some _
      rw [hsingle, hsingle, hsingle, find?_mergeEntries,
        if_neg (not_blocks_singleton es key)]
      cases Table.find? key es <;> rfl
    | cons next path =>
      rw [at?_cons, at?_cons, at?_cons, find?_mergeEntries, blocks_cons_iff]
      cases hv : Table.find? key es with
      | none => simp
      | some v =>
        simp only [Option.bind_some, Option.some.injEq, exists_eq_left']
        cases hfs : v.entries? with
        | none =>
          rw [overlaid_of_entries?_eq_none _ hfs, at?_eq_bind_entries?, hfs]
          simp
        | some fs =>
          cases hgs : (Table.find? key bs).bind Setting.entries? with
          | none =>
            -- the tree has nothing there for a setting to be over
            have hbelow : (Table.find? key bs).bind
                (Setting.at? (next :: path)) = none := by
              cases hu : Table.find? key bs with
              | none => rfl
              | some u =>
                rw [hu, Option.bind_some] at hgs
                rw [Option.bind_some, at?_eq_bind_entries?, hgs]
                rfl
            rw [overlaid_of_not_table hgs, hbelow]
            cases v.at? (next :: path) with
            | none => simp
            | some w => simp [overlaid_of_not_table]
          | some gs =>
            obtain ⟨u, hu, hgs⟩ := Option.bind_eq_some_iff.mp hgs
            obtain ⟨rfl, hmarks⟩ := Setting.eq_table_of_marks
              (Setting.marks_of_find? hbs hu) hgs
            rw [hu, Option.bind_some, overlaid_of_table hfs,
              at?_eq_bind_entries? v, hfs]
            simpa using ih hmarks (List.cons_ne_nil _ _)

/-- What is found in a tree is a tree. -/
lemma marks_of_at? {u : Setting} (hv : v.marks = [])
    (h : v.at? path = some u) : u.marks = [] := by
  induction path generalizing v with
  | nil => exact Option.some.inj h ▸ hv
  | cons key path ih =>
    rw [at?_eq_bind_entries?, Option.bind_eq_some_iff] at h
    obtain ⟨fs, hfs, h⟩ := h
    obtain ⟨rfl, hmarks⟩ := Setting.eq_table_of_marks hv hfs
    rw [at?_cons, Option.bind_eq_some_iff] at h
    obtain ⟨w, hw, h⟩ := h
    exact ih (Setting.marks_of_find? hmarks hw) h

/-! ### Once more -/

/-- Entries have no others beyond them, and change nothing over others, if
each of their keys is one of the others and each of the others stays. -/
lemma mergeEntries_eq_self
    (hkeys : ∀ e ∈ es, ∃ b, Table.find? e.1 bs = some b)
    (h : ∀ b ∈ bs, ∀ v, Table.find? b.1 es = some v →
      overlaid (some b.2) v = b.2) : mergeEntries bs es = bs := by
  have hbeyond : entriesBeyond bs es = [] := by
    rw [entriesBeyond, List.filter_eq_nil_iff]
    intro e he
    obtain ⟨b, hb⟩ := hkeys e he
    simp [hb]
  have heach : mergeEach bs es = bs := by
    rw [mergeEach_eq_map]
    refine (List.map_congr_left fun b hb => ?_).trans (List.map_id bs)
    cases hv : Table.find? b.1 es with
    | none => rfl
    | some v => rw [Option.elim_some, h b hb v hv, id]
  rw [mergeEntries, heach, hbeyond, List.append_nil]

/-- A setting changes nothing over what has come of it over another one. -/
def Settled (v : Setting) : Prop :=
  ∀ base, overlaid (some (overlaid base v)) v = overlaid base v

/-- Settled entries that are over others already change nothing. -/
lemma mergeEntries_mergeEntries_of_settled (keys : es.Keyed)
    (h : ∀ e ∈ es, Settled e.2) (bs : Table) :
    mergeEntries (mergeEntries bs es) es = mergeEntries bs es := by
  refine mergeEntries_eq_self (fun e he => ?_) fun b hb v hv => ?_
  · exact ⟨_, by rw [find?_mergeEntries, keys.find?_of_mem he]⟩
  · obtain ⟨e, he, rfl⟩ := Table.exists_mem_of_find? hv
    rw [mergeEntries, mergeEach_eq_map] at hb
    rcases List.mem_append.mp hb with hb | hb
    · -- the setting is over one of the others already
      obtain ⟨b', -, rfl⟩ := List.mem_map.mp hb
      rw [hv]
      exact h e he (some b'.2)
    · -- the setting is new, and over itself
      have hself := keys.find?_of_mem (List.mem_of_mem_filter hb)
      rw [Option.some.inj (hself.symm.trans hv)]
      exact h e he none

/-- Settled entries change nothing over themselves. -/
lemma mergeEntries_self_of_settled (keys : es.Keyed)
    (h : ∀ e ∈ es, Settled e.2) : mergeEntries es es = es := by
  refine mergeEntries_eq_self
    (fun e he => ⟨_, keys.find?_of_mem he⟩) fun b hb v hv => ?_
  rw [← Option.some.inj ((keys.find?_of_mem hb).symm.trans hv)]
  exact h b hb none

/-- What is no table is settled. -/
lemma settled_of_entries?_eq_none (h : v.entries? = none) : Settled v := by
  intro base
  rw [overlaid_of_entries?_eq_none _ h, overlaid_of_entries?_eq_none _ h]

/-- A table whose entries are settled is settled, if it is the same over
itself. -/
lemma settled_of_entries? (hv : v.entries? = some es) (keys : es.Keyed)
    (h : ∀ e ∈ es, Settled e.2)
    (hself : overlaid (some v) v = v) : Settled v := by
  have htwice := mergeEntries_mergeEntries_of_settled keys h
  intro base
  cases hbase : base.bind Setting.entries? with
  | none => rw [overlaid_of_not_table hbase, hself]
  | some bs =>
    obtain ⟨b, rfl, hb⟩ := Option.bind_eq_some_iff.mp hbase
    cases b with
    | table gs => rw [overlaid_of_table hv, overlaid_of_table hv, htwice]
    | shared mark gs =>
      have hlaid : ∀ gs, overlaid (some (.shared mark gs)) v =
          .shared mark (mergeEntries gs es) := by
        intro gs
        rw [overlaid, Option.elim_some, mergeSetting, hv, mergeEntries]
      rw [hlaid, hlaid, htwice]
    | _ => exact absurd hb (by simp [Setting.entries?])

/-- Settings are settled in which no table holds a key twice and nothing is
met again. -/
lemma settled_of_keyed (h : v.Keyed) (hloops : v.loops = []) :
    Settled v := by
  induction h with
  | table keys h ih =>
    rw [Setting.loops, Setting.loopsOfEntries_eq_nil_iff] at hloops
    have hes := fun e he => ih e he (hloops e he)
    refine settled_of_entries? rfl keys hes ?_
    rw [overlaid_of_table rfl, mergeEntries_self_of_settled keys hes]
  | @shared mark es keys h ih =>
    rw [Setting.loops, Setting.loopsOfEntries_eq_nil_iff] at hloops
    have hes := fun e he => ih e he (hloops e he)
    have hentries : (Setting.shared mark es).entries? = some es := by
      rw [Setting.entries?, Setting.fillEntries_eq_self fun e he =>
        (h e he).fill_of_loops (hloops e he) _ _]
    refine settled_of_entries? hentries keys hes ?_
    rw [overlaid, Option.elim_some, mergeSetting, hentries]
    exact congrArg (Setting.shared mark)
      (mergeEntries_self_of_settled keys hes)
  | _ => exact settled_of_entries?_eq_none rfl

/-! ### Configurations -/

/-- **Settings are merged path by path.** Let settings be merged into a
configuration of which no table stands in several places, and no table of
the settings hold a key twice. At every path of keys there is then: where
both have a table, the table of the configuration with the entries of the
other merged into its own; otherwise what the settings have there, if they
have something; nothing, if on the way to the end of the path the settings
have something that is no table, whatever the configuration had below it;
and what the configuration had there, if anything, in all other cases. If
nothing in the settings contains itself, they change nothing when they are
merged once more. -/
theorem at?_merge {settings : Table} {c : Config} (hc : c.IsTree)
    (h : (Setting.table settings).Keyed) :
    (∀ path, path ≠ [] →
      (∀ u v bs es, c.at? path = some u → u.entries? = some bs →
        (Config.mk settings).at? path = some v → v.entries? = some es →
          (c.merge settings).at? path =
            some (.table ((Config.mk bs).merge es).root)) ∧
      (∀ v, (Config.mk settings).at? path = some v →
        v.entries? = none ∨ (c.at? path).bind Setting.entries? = none →
          (c.merge settings).at? path = some v) ∧
      (Blocks settings path → (c.merge settings).at? path = none) ∧
      ((Config.mk settings).at? path = none → ¬ Blocks settings path →
        (c.merge settings).at? path = c.at? path)) ∧
    (Setting.loopsOfEntries settings = [] →
      (c.merge settings).merge settings = c.merge settings) := by
  classical
  refine ⟨fun path hpath => ?_, fun hloops => ?_⟩
  · have hmerged : (c.merge settings).at? path =
        match (Config.mk settings).at? path with
        | some v => some (overlaid (c.at? path) v)
        | none => if Blocks settings path then none else c.at? path :=
      at?_mergeEntries hc hpath
    refine ⟨fun u v bs es hu hbs hv hes => ?_, fun v hv htable => ?_,
      fun hblocks => ?_, fun hnone hblocks => ?_⟩
    · obtain ⟨rfl, -⟩ :=
        Setting.eq_table_of_marks (marks_of_at? (v := .table c.root) hc hu)
          hbs
      rw [hmerged, hv, hu]
      exact congrArg some (overlaid_of_table hes bs)
    · rw [hmerged, hv]
      rcases htable with hleaf | hbase
      · exact congrArg some (overlaid_of_entries?_eq_none _ hleaf)
      · exact congrArg some (overlaid_of_not_table hbase v)
    · have hnone : (Config.mk settings).at? path = none :=
        hblocks.at?_eq_none
      rw [hmerged, hnone]
      exact if_pos hblocks
    · rw [hmerged, hnone]
      exact if_neg hblocks
  · cases h with
    | table keys hes =>
      rw [Setting.loopsOfEntries_eq_nil_iff] at hloops
      exact congrArg Config.mk (mergeEntries_mergeEntries_of_settled keys
        (fun e he => settled_of_keyed (hes e he) (hloops e he)) c.root)

/-- Settings with a number in the place of a section, and a table that
stands in two places, one of them that of a setting. -/
def nestedSettings : Table := [
  (.text "luals", .int 5),
  (.text "book", .table [
    (.text "part_title", .text "Guide"),
    (.text "nav_depth", .shared 1 [(.text "deep", .null)])]),
  (.text "depths", .shared 1 [(.text "deep", .null)])]

/-- Over the defaults, the section is merged, the table takes the place of
the setting, and the number that of its section, of which nothing is left;
what the section does not name stays. -/
theorem at?_merge_nestedSettings :
    defaults.IsTree ∧ (Setting.table nestedSettings).Keyed ∧
      let c := defaults.merge nestedSettings
      c.get? "book" = some (.table [
        (.text "definitions_path", .text "library"),
        (.text "part_title", .text "Guide"),
        (.text "chapter_dir", .text "api"),
        (.text "nav_depth", .shared 1 [(.text "deep", .null)])]) ∧
        c.get? "book.nav_depth.deep" = some .null ∧
        c.get? "luals.command" = none ∧
        c.get? "book.chapter_dir" = some (.text "api") ∧
        c.merge nestedSettings = c := by
  have htree : defaults.IsTree := by decide
  have hdeep : ∀ e ∈ ([(.text "deep", .null)] : Table), e.2.Keyed := by
    simpa using Setting.Keyed.scalar .null
  have hkeyed : (Setting.table nestedSettings).Keyed := by
    refine .table (by decide) ?_
    simp only [nestedSettings, List.forall_mem_cons]
    refine ⟨.scalar _, .table (by decide) ?_, .shared 1 (by decide) hdeep,
      by simp⟩
    simp only [List.forall_mem_cons]
    exact ⟨.scalar _, .shared 1 (by decide) hdeep, by simp⟩
  obtain ⟨hpath, htwice⟩ := at?_merge htree hkeyed
  refine ⟨htree, hkeyed, ?_, ?_, ?_, ?_, htwice (by decide)⟩
  · rw [get?_eq_at?]
    exact (hpath [.text "book"] (List.cons_ne_nil _ _)).1 _ _ _ _ rfl rfl
      rfl rfl
  · rw [get?_eq_at?]
    exact (hpath [.text "book", .text "nav_depth", .text "deep"]
      (List.cons_ne_nil _ _)).2.1 _ rfl (.inl rfl)
  · rw [get?_eq_at?]
    exact (hpath [.text "luals", .text "command"]
      (List.cons_ne_nil _ _)).2.2.1 ⟨[.text "luals"], .int 5,
        List.cons_ne_nil _ _, ⟨[.text "command"], rfl⟩, by simp, rfl, rfl⟩
  · have hblocks : ¬ Blocks nestedSettings
        [.text "book", .text "chapter_dir"] := by
      rw [blocks_cons_iff]
      rintro ⟨v, hv, h⟩
      obtain rfl := Option.some.inj hv
      exact not_blocks_singleton _ _ (h _ rfl)
    rw [get?_eq_at?]
    exact (hpath [.text "book", .text "chapter_dir"]
      (List.cons_ne_nil _ _)).2.2.2 rfl hblocks

end Config

end ApiBook
