/-
Settings: what configuration files are made of.

They are richer than documents. Besides texts, numbers and truth values
there are bytes, days and moments, all of which can be the keys of a
table, and besides lists there are sets and pairs.

* `Scalar`: a setting that has no parts;
* `Scalar.same`: whether two of them are the same key;
* `Setting`: a setting; it may contain itself;
* `Setting.entries?`, `Setting.items?`: the entries of a table and the
  items of a list, with the whole in place of itself;
* `Table.get?`, `Table.put`: settings by name or key, a new one at the end
  and a known one in its place;
* `Setting.ofValue`: a value as a setting.
-/
import ApiBook.Calendar.Moment
import ApiBook.Value.Basic

namespace ApiBook

/-! ### Scalars -/

/-- A setting that has no parts. -/
inductive Scalar where
  | null
  | bool (b : Bool)
  | number (n : Number)
  | text (s : Text)
  | bytes (bs : List UInt8)
  | date (d : Date)
  | moment (m : Moment)
  deriving DecidableEq

namespace Scalar

instance : Inhabited Scalar := ⟨null⟩

/-- The number that a scalar counts as: truth values count as one and
zero. -/
def toNumber? : Scalar → Option Number
  | number n => some n
  | bool b => some (.whole (if b then 1 else 0))
  | _ => none

/-- Whether two scalars are the same key: they are one scalar, or count as
equal numbers. -/
def same (a b : Scalar) : Bool :=
  a = b ||
    match a.toNumber?, b.toNumber? with
    | some m, some n => m.le n && n.le m
    | _, _ => false

theorem same_text (s : Text) (k : Scalar) :
    (Scalar.text s).same k = decide (Scalar.text s = k) := by
  cases k <;> simp [same, toNumber?]

/-- Scalars that count as not given: null, false, zero, and whatever is
empty. -/
def isVoid : Scalar → Bool
  | null => true
  | bool b => !b
  | number n => (Value.number n).isVoid
  | text s => s.isEmpty
  | bytes bs => bs.isEmpty
  | date _ => false
  | moment _ => false

end Scalar

/-! ### Settings -/

/-- A setting. A table that stands in several places at once is `shared`,
and has a mark of its own; so has a list that is `looped` because it
contains itself. Inside itself a table or a list stands as the mark of what
is met `again`. -/
inductive Setting where
  | scalar (s : Scalar)
  | list (items : List Setting)
  | pair (first second : Setting)
  | set (members : List Scalar)
  | table (entries : List (Scalar × Setting))
  | shared (mark : Nat) (entries : List (Scalar × Setting))
  | looped (mark : Nat) (items : List Setting)
  | again (mark : Nat) (isTable : Bool)

/-- The entries of a table, in order. -/
abbrev Table := List (Scalar × Setting)

namespace Setting

instance : Inhabited Setting := ⟨.scalar .null⟩

/-- Nothing. -/
abbrev null : Setting := .scalar .null

/-- A truth value. -/
abbrev bool (b : Bool) : Setting := .scalar (.bool b)

/-- A number. -/
abbrev number (n : Number) : Setting := .scalar (.number n)

/-- A whole number. -/
abbrev int (i : Int) : Setting := .number (.whole i)

/-- A text. -/
abbrev text (s : Text) : Setting := .scalar (.text s)

/-- The settings that count as not given. -/
def isVoid : Setting → Bool
  | scalar s => s.isVoid
  | list items => items.isEmpty
  | pair .. => false
  | set members => members.isEmpty
  | table entries => entries.isEmpty
  | shared _ entries => entries.isEmpty
  | looped _ items => items.isEmpty
  | again .. => false

/-! ### Parts -/

mutual

/-- A setting with a whole wherever the whole is met again by its mark. -/
def fill (mark : Nat) (whole : Setting) : Setting → Setting
  | scalar s => scalar s
  | list items => list (fillItems mark whole items)
  | pair v w => pair (fill mark whole v) (fill mark whole w)
  | set members => set members
  | table es => table (fillEntries mark whole es)
  | shared m es =>
    if m = mark then shared m es else shared m (fillEntries mark whole es)
  | looped m items =>
    if m = mark then looped m items
    else looped m (fillItems mark whole items)
  | again m isTable => if m = mark then whole else again m isTable

/-- Items with a whole wherever it is met again. -/
def fillItems (mark : Nat) (whole : Setting) :
    List Setting → List Setting
  | [] => []
  | v :: vs => fill mark whole v :: fillItems mark whole vs

/-- Entries with a whole wherever it is met again. -/
def fillEntries (mark : Nat) (whole : Setting) :
    List (Scalar × Setting) → List (Scalar × Setting)
  | [] => []
  | (k, v) :: es => (k, fill mark whole v) :: fillEntries mark whole es

end

/-- The entries of a table. -/
def entries? : Setting → Option Table
  | table es => some es
  | shared mark es => some (fillEntries mark (shared mark es) es)
  | _ => none

/-- The items of a list. -/
def items? : Setting → Option (List Setting)
  | list items => some items
  | looped mark items => some (fillItems mark (looped mark items) items)
  | _ => none

end Setting

/-! ### Tables -/

namespace Table

/-- The setting at a key. -/
def find? (key : Scalar) : Table → Option Setting
  | [] => none
  | (k, v) :: rest => if key.same k then some v else find? key rest

/-- The setting at a name. -/
def get? (name : Text) (es : Table) : Option Setting :=
  find? (.text name) es

/-- The entries with a setting for a key: in the place of the key if it
is there, at the end if not. -/
def put (key : Scalar) (value : Setting) : Table → Table
  | [] => [(key, value)]
  | (k, v) :: rest =>
    if key.same k then (k, value) :: rest else (k, v) :: put key value rest

/-- Entries taken one after another, the last of the same keys in the
place of the first. -/
def ofPairs (pairs : List (Scalar × Setting)) : Table :=
  pairs.foldl (fun es (k, v) => put k v es) []

theorem get?_put_self (name : Text) (value : Setting) (es : Table) :
    get? name (put (.text name) value es) = some value := by
  induction es with
  | nil => simp [get?, put, find?, Scalar.same_text]
  | cons e es ih =>
    rw [get?] at ih ⊢
    by_cases h : (Scalar.text name).same e.1 = true
    · simp [put, find?, h]
    · simp [put, find?, h, ih]

theorem get?_put_of_ne {name other : Text} (h : other ≠ name)
    (value : Setting) (es : Table) :
    get? other (put (.text name) value es) = get? other es := by
  induction es with
  | nil => simp [get?, put, find?, Scalar.same_text, h]
  | cons e es ih =>
    rw [get?, get?] at ih ⊢
    by_cases hk : (Scalar.text name).same e.1 = true
    · have hne : (Scalar.text other).same e.1 = false := by
        rw [Scalar.same_text, decide_eq_true_eq] at hk
        simp [Scalar.same_text, ← hk, h]
      simp [put, find?, hk, hne]
    · simp [put, find?, hk, ih]

end Table

/-! ### Values as settings -/

namespace Setting

mutual

/-- A value as a setting. -/
def ofValue : Value → Setting
  | .null => null
  | .bool b => bool b
  | .number n => number n
  | .text s => text s
  | .list vs => .list (ofValues vs)
  | .object ms => .table (ofMembers ms)

/-- Values as settings. -/
def ofValues : List Value → List Setting
  | [] => []
  | v :: vs => ofValue v :: ofValues vs

/-- The members of an object as entries. -/
def ofMembers : List (Text × Value) → List (Scalar × Setting)
  | [] => []
  | (name, v) :: ms => (.text name, ofValue v) :: ofMembers ms

end

end Setting

end ApiBook
