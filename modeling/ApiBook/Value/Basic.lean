/-
Structured values: what documents, configuration files and books are
made of.

* `Value`: nothing, truth values, numbers, texts, lists, and objects
  with their members in order;
* `Members.get?`, `Members.put`: members by name, a new one at the end
  and a known one in its place;
* `Value.isVoid`: the values that count as not given;
* `Value.isPlain`: the values without surrogates in their texts.
-/
import ApiBook.Number.Basic
import ApiBook.Text.Basic

namespace ApiBook

/-- A structured value. -/
inductive Value where
  | null
  | bool (b : Bool)
  | number (n : Number)
  | text (s : Text)
  | list (items : List Value)
  | object (members : List (Text × Value))

/-- The members of an object, by name, in order. -/
abbrev Members := List (Text × Value)

instance : Inhabited Value := ⟨.null⟩

namespace Members

/-- The value of a member. -/
def get? (key : Text) : Members → Option Value
  | [] => none
  | (k, v) :: rest => if k = key then some v else get? key rest

/-- The members with a value for a name: in the place of the name if it
is there, at the end if not. -/
def put (key : Text) (value : Value) : Members → Members
  | [] => [(key, value)]
  | (k, v) :: rest =>
    if k = key then (k, value) :: rest else (k, v) :: put key value rest

/-- Members taken one after another, the last of equal names in the
place of the first. -/
def ofPairs (pairs : List (Text × Value)) : Members :=
  pairs.foldl (fun ms (k, v) => put k v ms) []

/-- Whether a name has a value. -/
def has (key : Text) (ms : Members) : Bool := (get? key ms).isSome

@[simp] theorem get?_nil (key : Text) : get? key [] = none := rfl

theorem get?_put_self (key : Text) (value : Value) (ms : Members) :
    get? key (put key value ms) = some value := by
  induction ms with
  | nil => simp [put, get?]
  | cons m ms ih =>
    by_cases h : m.1 = key <;> simp [put, get?, h, ih]

theorem get?_put_of_ne {key other : Text} (h : other ≠ key)
    (value : Value) (ms : Members) :
    get? other (put key value ms) = get? other ms := by
  induction ms with
  | nil => simp [put, get?, Ne.symm h]
  | cons m ms ih =>
    by_cases hk : m.1 = key
    · simp [put, get?, hk, Ne.symm h]
    · by_cases ho : m.1 = other <;> simp [put, get?, hk, ho, ih, h]

end Members

namespace Value

/-- A whole number. -/
abbrev int (i : Int) : Value := .number (.whole i)

/-- A floating-point number. -/
abbrev float (x : Binary64) : Value := .number (.float x)

/-- A text, or nothing. -/
def ofText? : Option Text → Value
  | none => .null
  | some s => .text s

/-- The number that a value counts as: truth values count as one and
zero. -/
def toNumber? : Value → Option Number
  | .number n => some n
  | .bool b => some (.whole (if b then 1 else 0))
  | _ => none

/-- The values that count as not given: null, false, zero, and whatever
is empty. -/
def isVoid : Value → Bool
  | .null => true
  | .bool b => !b
  | .number (.whole i) => i == 0
  | .number (.float (.finite _ m _ _)) => m == 0
  | .number (.float _) => false
  | .text s => s.isEmpty
  | .list items => items.isEmpty
  | .object ms => ms.isEmpty

mutual

/-- Whether no text in a value has a surrogate, nor any name. -/
def isPlain : Value → Bool
  | .text s => s.isPlain
  | .list vs => areItemsPlain vs
  | .object ms => areMembersPlain ms
  | _ => true

/-- Whether no text in some items has a surrogate. -/
def areItemsPlain : List Value → Bool
  | [] => true
  | v :: vs => v.isPlain && areItemsPlain vs

/-- Whether no text in some members has a surrogate, nor any name. -/
def areMembersPlain : List (Text × Value) → Bool
  | [] => true
  | (k, v) :: ms => k.isPlain && v.isPlain && areMembersPlain ms

end

/-- A value unless it counts as not given. -/
def orElse (v : Value) (w : Value) : Value := if v.isVoid then w else v

end Value

end ApiBook
