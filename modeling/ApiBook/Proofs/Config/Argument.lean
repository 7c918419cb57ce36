/-
Arguments of the exporting program that come from an environment variable.

* `settingAt?_override_of_unshared`: in a section that is not shared the
  last variable that names a key decides, whatever the others change
  elsewhere;
* `ReadsAsText`: a text is neither a word for a truth value nor a number;
* `exporter_of_variable`: **arguments arrive as they are written exactly if
  they read as text**: the words of such a text are the arguments, of
  another one there are none, or no program is called;
* `exporter_numberHost`: with a number no program is called.
-/
import ApiBook.Config.Options
import ApiBook.Proofs.Config.Layers
import ApiBook.Proofs.Number.Typed
import ApiBook.Proofs.Text.Word

namespace ApiBook.Config

variable {c : Config} {group key : Text}

/-! ### Settings put at other keys -/

/-- What stands at a name after a variable is put in another section: what
stood there, changed where shared tables stand in it. -/
lemma get?_apply_of_ne {o : Override} (h : group ≠ o.group) :
    Table.get? group (c.apply o).root = Table.get? group c.root ∨
      ∃ mark f, Table.get? group (c.apply o).root =
        (Table.get? group c.root).map (Setting.change mark f) := by
  rw [apply, put]
  cases lastShared? [o.group, o.key] (.table c.root) with
  | none => exact .inl (Table.get?_put_of_ne h _ _)
  | some last => exact .inr ⟨_, _, Setting.find?_changeEntries _ _ _ _⟩

/-- A section that is not shared is not shared afterwards. -/
lemma unshared_apply_of_unshared {o : Override}
    (h : Unshared [group, key] c.root) :
    Unshared [group, key] (c.apply o).root := by
  by_cases hgroup : group = o.group
  · subst hgroup
    exact unshared_apply ⟨h.1, trivial⟩ h
  · refine ⟨fun mark es => ?_, trivial⟩
    rcases get?_apply_of_ne hgroup with heq | ⟨m, f, heq⟩
    · rw [heq]
      exact h.1 mark es
    · rw [heq]
      intro hmap
      obtain ⟨v, hv, hshared⟩ := Option.map_eq_some_iff.mp hmap
      cases v with
      | shared m' fs => exact h.1 m' fs hv
      | _ => exact nomatch hshared

/-- A scalar in a section that is not shared stays when a setting is put at
another key. -/
lemma settingAt?_apply_scalar {o : Override} {a : Scalar}
    (hunshared : Unshared [group, key] c.root)
    (hne : (o.group, o.key) ≠ (group, key))
    (h : settingAt? [group, key] (.table c.root) = some (.scalar a)) :
    settingAt? [group, key] (.table (c.apply o).root) =
      some (.scalar a) := by
  by_cases hgroup : group = o.group
  · have ho : ∀ p ∈ [o], Unshared [p.group, p.key] c.root := by
      intro p hp
      obtain rfl := List.mem_singleton.mp hp
      rw [← hgroup]
      exact ⟨hunshared.1, trivial⟩
    rw [← h]
    exact settingAt?_foldl_of_forall ho (by simpa using hne)
  · rcases get?_apply_of_ne hgroup with heq | ⟨mark, f, heq⟩
    · rw [settingAt?_cons, heq, ← settingAt?_cons, h]
    · -- the scalar is in the section, and no table is put in its place
      rw [settingAt?_pair] at h ⊢
      obtain ⟨v, hv, hkey⟩ := Option.bind_eq_some_iff.mp h
      obtain ⟨es, hes, hkey⟩ := Option.bind_eq_some_iff.mp hkey
      rw [heq, hv, Option.map_some, Option.bind_some]
      cases v with
      | table fs =>
        obtain rfl := Option.some.inj hes
        rw [Setting.change, Setting.entries?, Option.bind_some, Table.get?,
          Setting.find?_changeEntries, ← Table.get?, hkey]
        rfl
      | shared m fs => exact absurd hv (hunshared.1 m fs)
      | _ => cases hes

/-- Settings that are put at other keys do not concern a scalar in a
section that is not shared. -/
lemma settingAt?_foldl_scalar {os : List Override} {a : Scalar}
    (hunshared : Unshared [group, key] c.root)
    (hos : ∀ o ∈ os, (o.group, o.key) ≠ (group, key))
    (h : settingAt? [group, key] (.table c.root) = some (.scalar a)) :
    settingAt? [group, key] (.table (os.foldl apply c).root) =
      some (.scalar a) := by
  induction os generalizing c with
  | nil => exact h
  | cons o os ih =>
    obtain ⟨hne, hos⟩ := List.forall_mem_cons.mp hos
    exact ih (unshared_apply_of_unshared hunshared) hos
      (settingAt?_apply_scalar hunshared hne h)

/-- A section that is not shared is not shared after any settings are
put. -/
lemma unshared_foldl {os : List Override}
    (h : Unshared [group, key] c.root) :
    Unshared [group, key] (os.foldl apply c).root := by
  induction os generalizing c with
  | nil => exact h
  | cons o os ih => exact ih (unshared_apply_of_unshared h)

/-- A text stands for a scalar. -/
lemma exists_typedValue_eq (s : String) :
    ∃ a, typedValue s = .scalar a := by
  rw [typedValue]
  split
  · exact ⟨_, rfl⟩
  · split
    · exact ⟨_, rfl⟩
    · exact ⟨_, rfl⟩

/-- In a section that is not shared the last variable that names a key
decides, whatever the others name. -/
lemma settingAt?_override_of_unshared {x : String × String}
    {before after : Variables} (h : Unshared [group, key] c.root)
    (hx : Names x.1 group key)
    (hlast : ∀ y ∈ after, ¬ Names y.1 group key) :
    settingAt? [group, key]
        (.table (c.override (before ++ x :: after)).root) =
      some (typedValue x.2) := by
  obtain ⟨a, ha⟩ := exists_typedValue_eq x.2
  have hsome : Override.ofVariable? x = some ⟨group, key, typedValue x.2⟩ :=
    ofVariable?_eq_some_iff.mpr ⟨hx, rfl⟩
  let c' := (before.filterMap Override.ofVariable?).foldl apply c
  have hunshared : Unshared [group, key] c'.root := unshared_foldl h
  have hput : settingAt? [group, key]
      (.table (c'.apply ⟨group, key, typedValue x.2⟩).root) =
        some (.scalar a) := by
    rw [apply, put_eq_of_unshared hunshared, ← ha]
    exact settingAt?_putAt_append (List.cons_ne_nil _ _) []
  rw [override, List.filterMap_append, List.filterMap_cons_some hsome,
    List.foldl_append, List.foldl_cons, ha]
  refine settingAt?_foldl_scalar (unshared_apply_of_unshared hunshared)
    (fun o ho heq => ?_) (ha ▸ hput)
  obtain ⟨y, hy, hyo⟩ := List.mem_filterMap.mp ho
  obtain ⟨rfl, rfl⟩ := Prod.mk.inj heq
  exact hlast y hy (ofVariable?_eq_some_iff.mp hyo).1

/-- What a loaded configuration says of a key in a section of the defaults
is the value of the last variable that names the key. -/
lemma settingAt?_of_load {h : Host} {file : Option Path}
    (hload : load h file = .ok c) {x : String × String}
    {before after : Variables} (henv : h.environment = before ++ x :: after)
    (hx : Names x.1 group key) (hlast : ∀ y ∈ after, ¬ Names y.1 group key)
    (hdefault : (Table.get? group defaults.root).isSome) :
    settingAt? [group, key] (.table c.root) = some (typedValue x.2) := by
  rw [load_eq_map] at hload
  cases hfile : fileSettings h file with
  | error f => rw [hfile] at hload; exact nomatch hload
  | ok settings =>
    rw [hfile] at hload
    obtain rfl := Except.ok.inj hload
    rw [henv]
    exact settingAt?_override_of_unshared
      (unshared_merge (fun _ _ _ => hdefault) key) hx hlast

/-! ### Arguments -/

/-- The words of a text. -/
def argumentWords (s : String) : List Text :=
  (Text.words Text.isSpacing s.toList).map .ofChars

/-- They are its words as a setting. -/
lemma wordsOf_ofString (s : String) : wordsOf s = argumentWords s := by
  rw [wordsOf, argumentWords, Text.toList_ofString, Text.words_map,
    List.map_map]
  rfl

/-- Whether a text is neither a word for a truth value nor a number. -/
def ReadsAsText (s : String) : Prop :=
  truthWords.lookup (Text.lowercase s) = none ∧ Number.ofTyped? s = none

instance (s : String) : Decidable (ReadsAsText s) :=
  inferInstanceAs (Decidable (_ ∧ _))

/-- A text that reads as one stands for itself, and any other one for a
truth value or a number. -/
lemma typedValue_cases (s : String) :
    (ReadsAsText s ∧ typedValue s = .text s) ∨
      ¬ ReadsAsText s ∧
        ((∃ b, typedValue s = .bool b) ∨ ∃ n, typedValue s = .number n) := by
  rw [ReadsAsText, typedValue]
  cases truthWords.lookup (Text.lowercase s) with
  | some b => exact Or.inr ⟨by simp, Or.inl ⟨b, rfl⟩⟩
  | none =>
    cases Number.ofTyped? s with
    | some n => exact Or.inr ⟨by simp, Or.inr ⟨n, rfl⟩⟩
    | none => exact Or.inl ⟨⟨rfl, rfl⟩, rfl⟩

/-- A text without words reads as text. -/
lemma readsAsText_of_argumentWords_eq_nil {s : String}
    (h : argumentWords s = []) : ReadsAsText s := by
  have hspacing : ∀ c ∈ s.toList, Text.isSpacing c :=
    Text.words_eq_nil_iff.mp (List.map_eq_nil_iff.mp h)
  have hcodes : ∀ c ∈ (Text.ofString s).toList, c.meets Text.isSpacing :=
    List.forall_mem_map.mpr hspacing
  refine ⟨?_, Number.ofTyped?_of_isSpacing hcodes⟩
  rw [Text.lowercase_of_isSpacing hspacing, List.lookup_eq_none_iff]
  intro word hword
  rw [bne_iff_ne]
  rintro rfl
  -- the words for truth values begin with letters
  have hall : ∀ word ∈ truthWords,
      word.1.toList.any (!Text.isSpacing ·) := by decide
  obtain ⟨c, hc, hletter⟩ := List.any_eq_true.mp (hall word hword)
  rw [hspacing c hc] at hletter
  exact nomatch hletter

/-- The parts of a text are its words. -/
lemma argumentParts_text (s : String) :
    argumentParts (.text s) = .ok ((argumentWords s).map .text) := by
  rw [argumentParts]
  split
  next hvoid =>
    have hs : Text.ofString s = Text.ofString "" :=
      Text.isEmpty_iff.mp hvoid
    obtain rfl := Text.ofString_inj.mp hs
    rfl
  next => rw [← wordsOf_ofString]

/-- Texts in writing are the texts. -/
lemma mapM_written_text (ws : List Text) :
    (ws.map Setting.text).mapM written = .ok ws := by
  induction ws with
  | nil => rfl
  | cons w ws ih =>
    rw [List.map_cons, List.mapM_cons, ih]
    rfl

/-- A truth value or a number has no parts: it counts as not given, or is
nothing to take arguments from. -/
lemma argumentParts_typedValue {s : String} (h : ¬ ReadsAsText s) :
    argumentParts (typedValue s) =
      if (typedValue s).isVoid then .ok [] else .error .notArguments := by
  rcases typedValue_cases s with ⟨hs, -⟩ | ⟨-, ⟨b, hb⟩ | ⟨n, hn⟩⟩
  · exact absurd hs h
  · rw [hb]
    rfl
  · rw [hn]
    rfl

/-- The program that is called, where its name can be written. -/
lemma exporter_eq {name : Text}
    (h : (c.get "luals.command" (.text "lua-language-server")).display? =
      some name) :
    c.exporter = do
      let parts ← argumentParts (c.get "luals.extra_args" (.list []))
      return ⟨name, ← parts.mapM written⟩ := by
  rw [exporter, written, h]
  rfl

/-- Without a name that can be written no program is called. -/
lemma exporter_of_unwritable
    (h : (c.get "luals.command" (.text "lua-language-server")).display? =
      none) : c.exporter = .error .unwritable := by
  rw [exporter, written, h]
  rfl

/-- The arguments that the last variable for them stands for, in a loaded
configuration. -/
lemma exporter_eq_of_load {h : Host} {file : Option Path}
    (hload : load h file = .ok c) {before after : Variables} {s : String}
    (henv : h.environment =
      before ++ ("LUACATS_LUALS_EXTRA_ARGS", s) :: after)
    (hlast : ∀ x ∈ after, ¬ Names x.1 "luals" "extra_args") {name : Text}
    (hname : (c.get "luals.command"
      (.text "lua-language-server")).display? = some name) :
    c.exporter =
      if ReadsAsText s then .ok ⟨name, argumentWords s⟩
      else if (typedValue s).isVoid then .ok ⟨name, []⟩
      else .error .notArguments := by
  have hsetting := settingAt?_of_load hload henv
    (show Names "LUACATS_LUALS_EXTRA_ARGS" "luals" "extra_args" by
      decide +kernel) hlast (by decide)
  have hget : c.get "luals.extra_args" (.list []) = typedValue s := by
    have hpair : c.get ("luals" ++ "." ++ "extra_args") (.list []) =
        (settingAt? ["luals", "extra_args"] (.table c.root)).getD (.list []) :=
      get_pair c (by decide) (by decide) (.list [])
    rw [hsetting] at hpair
    exact hpair
  rw [exporter_eq hname, hget]
  rcases typedValue_cases s with ⟨hs, htext⟩ | ⟨hs, -⟩
  · rw [htext, argumentParts_text, if_pos hs]
    show (do return ⟨name, ← ((argumentWords s).map Setting.text).mapM
      written⟩ : Except ExporterFault Exporter) = _
    rw [mapM_written_text]
    rfl
  · rw [argumentParts_typedValue hs, if_neg hs]
    split
    · rfl
    · rfl

/-- **Arguments arrive as they are written exactly if they read as text.**
Let a configuration be loaded, and let a variable stand for the arguments of
the exporting program, with no later one for them. If the name of the
program cannot be written, no program is called. Otherwise the program is
called with the words of the variable if these read as text, and only then:
a word for a truth value or a number counts as no arguments at all if it is
void, and as none to call a program with if it is not, though it has words
in either case. -/
theorem exporter_of_variable {h : Host} {file : Option Path} {c : Config}
    (hload : load h file = .ok c) {before after : Variables} {s : String}
    (henv : h.environment =
      before ++ ("LUACATS_LUALS_EXTRA_ARGS", s) :: after)
    (hlast : ∀ x ∈ after, ¬ Names x.1 "luals" "extra_args")
    {ws : List (List Char)}
    (hws : Text.AreWords Text.isSpacing s.toList ws) :
    let command := c.get "luals.command" (.text "lua-language-server")
    (command.display? = none → c.exporter = .error .unwritable) ∧
    ∀ name, command.display? = some name →
      (c.exporter = .ok ⟨name, ws.map .ofChars⟩ ↔ ReadsAsText s) ∧
      (¬ ReadsAsText s → ws ≠ [] ∧
        c.exporter = if (typedValue s).isVoid then .ok ⟨name, []⟩
          else .error .notArguments) := by
  have hwords : ws.map Text.ofChars = argumentWords s := by
    rw [Text.areWords_iff.mp hws]
    rfl
  have hne : ¬ ReadsAsText s → argumentWords s ≠ [] :=
    fun hs hnil => hs (readsAsText_of_argumentWords_eq_nil hnil)
  refine ⟨exporter_of_unwritable, fun name hname => ?_⟩
  rw [hwords, exporter_eq_of_load hload henv hlast hname]
  refine ⟨⟨fun heq => ?_, fun hs => if_pos hs⟩, fun hs => ⟨?_, if_neg hs⟩⟩
  · by_contra hs
    rw [if_neg hs] at heq
    split at heq
    · -- no words would have arrived
      have hnil := congrArg Exporter.arguments (Except.ok.inj heq)
      exact hne hs hnil.symm
    · exact nomatch heq
  · rintro rfl
    exact hne hs hwords.symm

/-- A host without a file of settings, whose one variable stands for the
arguments. -/
def argumentHost (s : String) : Host :=
  hostWith [] [("LUACATS_LUALS_EXTRA_ARGS", s)]

/-- No other variable stands before or after it. -/
lemma environment_argumentHost (s : String) :
    (argumentHost s).environment =
      [] ++ ("LUACATS_LUALS_EXTRA_ARGS", s) :: [] := rfl

/-- The configuration on such a host. -/
def argumentConfig (s : String) : Config :=
  (defaults.merge []).override (argumentHost s).environment

/-- That variable leaves the name of the program as it is. -/
lemma display?_command_argumentConfig (s : String) :
    ((argumentConfig s).get "luals.command"
      (.text "lua-language-server")).display? =
        some "lua-language-server" := by
  have hnames : Names "LUACATS_LUALS_EXTRA_ARGS" "luals" "extra_args" := by
    decide +kernel
  have hvariable : Override.ofVariable? ("LUACATS_LUALS_EXTRA_ARGS", s) =
      some ⟨"luals", "extra_args", typedValue s⟩ :=
    ofVariable?_eq_some_iff.mpr ⟨hnames, rfl⟩
  have hoverrides : (argumentHost s).environment.filterMap
      Override.ofVariable? = [⟨"luals", "extra_args", typedValue s⟩] := by
    rw [argumentHost, hostWith, List.filterMap_cons_some hvariable,
      List.filterMap_nil]
  have hunshared : Unshared ["luals", "command"] (defaults.merge []).root :=
    unshared_merge (fun _ _ _ => by decide) "command"
  have hdefault : settingAt? ["luals", "command"]
      (.table (defaults.merge []).root) =
        some (.text "lua-language-server") := rfl
  have hother : ∀ o ∈ [(⟨"luals", "extra_args", typedValue s⟩ : Override)],
      (o.group, o.key) ≠ (Text.ofString "luals", Text.ofString "command") := by
    simp
  have hsetting := settingAt?_foldl_scalar hunshared hother hdefault
  have hget : (argumentConfig s).get ("luals" ++ "." ++ "command")
      (.text "lua-language-server") =
        (settingAt? ["luals", "command"] (.table (argumentConfig s).root)).getD
          (.text "lua-language-server") :=
    get_pair _ (by decide) (by decide) _
  rw [argumentConfig, override, hoverrides] at hget ⊢
  rw [hsetting] at hget
  exact (congrArg _ hget).trans rfl

/-- Two words with gaps between and after them arrive as they are. -/
theorem exporter_wordyHost :
    ∃ c, load (argumentHost "--loglevel  trace\t") none = .ok c ∧
      c.exporter =
        .ok ⟨"lua-language-server", ["--loglevel", "trace"]⟩ := by
  have hload : load (argumentHost "--loglevel  trace\t") none =
      .ok (argumentConfig "--loglevel  trace\t") := rfl
  have hwords : Text.AreWords Text.isSpacing "--loglevel  trace\t".toList
      ["--loglevel".toList, "trace".toList] :=
    Text.areWords_iff.mpr (by decide +kernel)
  obtain ⟨-, hexporter⟩ := exporter_of_variable hload
    (environment_argumentHost _) (List.forall_mem_nil _) hwords
  exact ⟨_, hload, (hexporter "lua-language-server"
    (display?_command_argumentConfig _)).1.mpr (by decide +kernel)⟩

/-- A number is one word and no argument: no program is called. -/
theorem exporter_numberHost :
    ∃ c, load (argumentHost "5") none = .ok c ∧
      Text.AreWords Text.isSpacing "5".toList [['5']] ∧
      c.exporter = .error .notArguments := by
  have hload : load (argumentHost "5") none = .ok (argumentConfig "5") := rfl
  have hnumber : ¬ ReadsAsText "5" := by decide +kernel
  have hvoid : (typedValue "5").isVoid = false := by decide +kernel
  refine ⟨_, hload, Text.areWords_iff.mpr (by decide +kernel), ?_⟩
  rw [exporter_eq_of_load hload (environment_argumentHost "5")
    (List.forall_mem_nil _) (display?_command_argumentConfig "5"),
    if_neg hnumber, hvoid]
  rfl

end ApiBook.Config
