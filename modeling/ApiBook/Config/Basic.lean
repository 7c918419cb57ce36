/-
Configuration: settings in sections, found by keys with dots.

* `Config.get?`, `Config.set`: the setting at a key, and the
  configuration with another one there, in every place where the table that
  is changed stands;
* `Config.merge`: settings over other settings, table into table;
* `Config.defaults`: the settings that hold where nothing else is said.
-/
import ApiBook.Setting.Shared
import ApiBook.Text.Pieces

namespace ApiBook

/-- A configuration: a table of settings. -/
structure Config where
  root : Table

namespace Config

/-! ### Keys -/

/-- The names in a key, which dots separate. -/
def parts (key : Text) : List Text := Text.splitText '.' key

/-- The setting at the end of a row of names, each a key of the table
before. -/
def settingAt? : List Text → Setting → Option Setting
  | [], v => some v
  | name :: names, v =>
    (v.entries?.bind (Table.get? name)).bind (settingAt? names)

/-- The setting at a key. -/
def get? (c : Config) (key : Text) : Option Setting :=
  settingAt? (parts key) (.table c.root)

/-- The setting at a key, or another one if there is none. -/
def get (c : Config) (key : Text) (default : Setting) : Setting :=
  (c.get? key).getD default

/-! ### Changes -/

/-- The entries of a section that stands nowhere else; none if there is no
such table. -/
def sectionOf (name : Text) (es : Table) : Table :=
  match Table.get? name es with
  | some (.table fs) => fs
  | _ => []

/-- The entries with a setting at the end of a row of names. Whatever on
the way is no table gives way to one. -/
def putAt (value : Setting) : List Text → Table → Table
  | [], es => es
  | [name], es => es.put (.text name) value
  | name :: next :: names, es =>
    es.put (.text name)
      (.table (putAt value (next :: names) (sectionOf name es)))

/-- The mark of a shared table. -/
def mark? : Setting → Option Nat
  | .shared mark _ => some mark
  | _ => none

/-- The last shared table that a row of names leads through, and the names
that go on from it. -/
def lastShared? : List Text → Setting → Option (Nat × List Text)
  | [], _ => none
  | [name], v => (mark? v).map fun mark => (mark, [name])
  | name :: next :: names, v =>
    ((v.entries?.bind (Table.get? name)).bind
        (lastShared? (next :: names))).or
      ((mark? v).map fun mark => (mark, name :: next :: names))

/-- The configuration with a setting at the end of a row of names. The last
table on the way that is shared is changed wherever it stands. -/
def put (names : List Text) (value : Setting) (c : Config) : Config :=
  match lastShared? names (.table c.root) with
  | none => ⟨putAt value names c.root⟩
  | some (mark, rest) =>
    ⟨Setting.changeEntries mark (putAt value rest) c.root⟩

/-- The configuration with a setting at a key. -/
def set (key : Text) (value : Setting) (c : Config) : Config :=
  c.put (parts key) value

/-! ### Merging -/

/-- The entries whose keys are not among those of others. -/
def entriesBeyond (base es : Table) : Table :=
  es.filter fun e => (base.find? e.1).isNone

mutual

/-- A setting with another one over it: a table over a table is merged into
it, and anything else takes its place. -/
def mergeSetting : Setting → Setting → Setting
  | .table bs, v =>
    match v.entries? with
    | some es => .table (mergeEach bs es ++ entriesBeyond bs es)
    | none => v
  | .shared mark bs, v =>
    match v.entries? with
    | some es => .shared mark (mergeEach bs es ++ entriesBeyond bs es)
    | none => v
  | _, v => v

/-- Entries, each with the one for its key over it. -/
def mergeEach : List (Scalar × Setting) → Table → Table
  | [], _ => []
  | (key, b) :: bs, es =>
    (key, match es.find? key with
      | some v => mergeSetting b v
      | none => b) :: mergeEach bs es

end

/-- Entries with other entries over them: those of new keys come last. -/
def mergeEntries (bs es : Table) : Table :=
  mergeEach bs es ++ entriesBeyond bs es

/-- A configuration with settings over it. No table of the configuration
may stand in several places. -/
def merge (settings : Table) (c : Config) : Config where
  root := mergeEntries c.root settings

/-! ### Defaults -/

/-- A section of settings with names. -/
def group (name : Text) (settings : List (Text × Setting)) :
    Scalar × Setting :=
  (.text name, .table (settings.map fun (name, v) => (.text name, v)))

/-- The settings that hold where nothing else is said. -/
def defaults : Config where
  root := [
    group "luals" [
      ("command", .text "lua-language-server"),
      ("extra_args", .list [])],
    group "markdown" [
      ("heading_level", .int 2),
      ("language", .text "lua")],
    group "book" [
      ("definitions_path", .text "library"),
      ("part_title", .text "API Reference"),
      ("chapter_dir", .text "api"),
      ("nav_depth", .null)]]

end Config

end ApiBook
