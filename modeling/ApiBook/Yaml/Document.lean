/-
YAML texts as settings.

* `Node.collections`: the collections of a text, by their places;
* `pairsAt?`: the pairs of a mapping whose merge keys have done their work;
* `valueAt`: the setting that a node stands for, with a mark for every
  collection;
* `parse`: the setting of a text with at most one document; an empty text
  stands for null.

Of several faults in a document the one in the outermost collection is
reported, and of these the first one.
-/
import ApiBook.Setting.SetOrder
import ApiBook.Setting.Shared
import ApiBook.Yaml.Lexer
import ApiBook.Yaml.Node
import ApiBook.Yaml.ScalarValue

namespace ApiBook.Yaml

/-! ### Tags -/

/-- The head that the standard tags have in common. -/
def standardHead : String := "tag:yaml.org,2002:"

/-- What the standard tags of scalars stand for, after their common
head. -/
def standardTypes : List (String × ScalarType) := [
  ("null", .null), ("bool", .bool), ("int", .whole), ("float", .float),
  ("binary", .bytes), ("timestamp", .moment), ("str", .text)]

/-- What the content of a collection is taken as. -/
inductive CollectionType where
  | list
  | pairs
  | set
  | table
  deriving DecidableEq, Repr

/-- What the standard tags of collections stand for, after their common
head. -/
def standardCollections : List (String × CollectionType) := [
  ("seq", .list), ("omap", .pairs), ("pairs", .pairs), ("set", .set),
  ("map", .table)]

/-- Whether a tag leaves the type open. -/
def isOpen (tag : Option String) : Bool := tag = none || tag = some "!"

/-- What a tag stands for in a table of standard tags. -/
def standard? {α : Type} (table : List (String × α)) (tag : Option String) :
    Option α :=
  tag.bind fun t =>
    (table.find? fun (name, _) => standardHead ++ name = t).map (·.2)

/-- The type of a scalar. -/
def scalarType? (tag : Option String) (s : Text) (plain : Bool) :
    Option ScalarType :=
  match tag with
  | none => some (if plain then typeOf s else .text)
  | some "!" => some (typeOf s)
  | tag => standard? standardTypes tag

/-- The type of a collection that is a sequence, or else a mapping. -/
def collectionType? (tag : Option String) (isMapping : Bool) :
    Option CollectionType :=
  if isOpen tag then some (if isMapping then .table else .list)
  else standard? standardCollections tag

/-- Whether a key is of a type. -/
def Node.isOfType (type : ScalarType) : Node → Bool
  | .scalar tag s plain => scalarType? tag s plain = some type
  | _ => false

/-! ### Collections -/

/-- The collections of a text, each with its place. -/
abbrev Collections := List (Nat × Node)

namespace Node

mutual

/-- The collections in a node, and the node itself if it is one. -/
def collections : Node → Collections
  | .sequence tag place items =>
    (place, .sequence tag place items) :: collectionsOfItems items
  | .mapping tag place pairs =>
    (place, .mapping tag place pairs) :: collectionsOfPairs pairs
  | _ => []

/-- The collections in items. -/
def collectionsOfItems : List Node → Collections
  | [] => []
  | n :: ns => n.collections ++ collectionsOfItems ns

/-- The collections in pairs. -/
def collectionsOfPairs : List (Node × Node) → Collections
  | [] => []
  | (k, v) :: ps =>
    k.collections ++ v.collections ++ collectionsOfPairs ps

end

end Node

/-- A node, or the collection that it refers to. -/
def Collections.resolve (g : Collections) : Node → Node
  | .referred place => (g.lookup place).getD .absent
  | n => n

/-! ### Merging -/

/-- The pairs of a mapping without those whose keys are merge keys. -/
def plainPairs (pairs : List (Node × Node)) : List (Node × Node) :=
  pairs.filter (!·.1.isOfType .merge)

mutual

/-- The pairs of a mapping with those that its merge keys bring in front:
later pairs win over earlier ones. The mappings `above` are waiting for
theirs, and bring what they have already. -/
def mergedPairs? (g : Collections) (fuel : Nat) (above : List Nat)
    (pairs : List (Node × Node)) : Option (List (Node × Node)) :=
  match fuel with
  | 0 => none
  | fuel + 1 => do
    let brought ← (pairs.filter (·.1.isOfType .merge)).mapM fun p =>
      broughtPairs? g fuel above p.2
    return brought.flatten ++ plainPairs pairs

/-- The pairs that the value of a merge key brings: those of one mapping,
or of several, of which the first wins. -/
def broughtPairs? (g : Collections) (fuel : Nat) (above : List Nat)
    (n : Node) : Option (List (Node × Node)) :=
  match fuel with
  | 0 => none
  | fuel + 1 =>
    match g.resolve n with
    | .sequence _ _ items => do
      let brought ← items.mapM (pairsOfMapping? g fuel above)
      return brought.reverse.flatten
    | n => pairsOfMapping? g fuel above n

/-- The pairs that a mapping brings. -/
def pairsOfMapping? (g : Collections) (fuel : Nat) (above : List Nat)
    (n : Node) : Option (List (Node × Node)) :=
  match fuel with
  | 0 => none
  | fuel + 1 =>
    match g.resolve n with
    | .mapping _ place pairs =>
      if above.contains place then some (plainPairs pairs)
      else mergedPairs? g fuel (place :: above) pairs
    | _ => none

end

/-- The pairs of the mapping at a place, with what its merge keys bring.
Every mapping waits once at most. -/
def pairsAt? (g : Collections) (place : Nat) (pairs : List (Node × Node)) :
    Option (List (Node × Node)) :=
  mergedPairs? g (3 * g.length + 3) [place] pairs

/-! ### Faults by depth -/

/-- A result, or a fault and the depth at which it shows. -/
abbrev Placed (α : Type) := Except (Nat × Fault) α

/-- Two results together; of two faults the one at the lesser depth, or
else the first. -/
def both {α β γ : Type} (f : α → β → γ) (x : Placed α) (y : Placed β) :
    Placed γ :=
  match x, y with
  | .ok a, .ok b => .ok (f a b)
  | .error e, .ok _ => .error e
  | .ok _, .error e => .error e
  | .error e, .error e' => .error (if e'.1 < e.1 then e' else e)

/-- A result at a depth. -/
def placed {α : Type} (depth : Nat) : Except Fault α → Placed α
  | .ok a => .ok a
  | .error f => .error (depth, f)

/-- The results for a row. -/
def inRow {α β : Type} (f : α → Placed β) : List α → Placed (List β)
  | [] => .ok []
  | a :: as => both (· :: ·) (f a) (inRow f as)

/-! ### Scalars -/

/-- The text that counts for a node where a scalar is wanted: its own,
or that of the default of a mapping, which may lead back to itself. -/
def wantedText (g : Collections) (fuel : Nat) (n : Node) :
    Except Fault Text :=
  match fuel with
  | 0 => .error .tooDeep
  | fuel + 1 =>
    match g.resolve n with
    | .scalar _ s _ => .ok s
    | .mapping _ _ pairs =>
      match pairs.find? (·.1.isOfType .default) with
      | some (_, v) => wantedText g fuel v
      | none => .error .malformed
    | _ => .error .malformed

/-- The value of a collection that is tagged as a scalar. -/
def scalarInstead (g : Collections) (tag : Option String) (n : Node) :
    Except Fault Scalar :=
  match standard? standardTypes tag with
  | none => .error .malformed
  | some type => do
    let s ← wantedText g (g.length + 2) n
    if type = .moment then throw .noText else scalarOf type s

/-- The value of a scalar. -/
def scalarValue (tag : Option String) (s : Text) (plain : Bool) :
    Except Fault Scalar :=
  match scalarType? tag s plain with
  | some type => scalarOf type s
  | none => .error .malformed

/-- The value of a key; only scalars are keys. -/
def keyValue (g : Collections) (k : Node) : Except Fault Scalar :=
  match g.resolve k with
  | .scalar tag s plain => scalarValue tag s plain
  | .mapping tag place pairs =>
    scalarInstead g tag (.mapping tag place pairs)
  | _ => .error .malformed

/-- The value of a key of a mapping. A key that only marks a default is
read as text. -/
def entryKey (g : Collections) (k : Node) : Except Fault Scalar :=
  match k with
  | .scalar _ s _ =>
    if k.isOfType .default then .ok (.text s) else keyValue g k
  | _ => keyValue g k

/-! ### Values -/

/-- The keys of entries, each once. -/
def keysOf (entries : List (Scalar × Setting)) : List Scalar :=
  (Table.ofPairs entries).map (·.1)

/-- The set of the keys of entries. -/
def setOf (entries : List (Scalar × Setting)) : Setting :=
  .set (inSetOrder (keysOf entries))

/-- The table of entries that stand at a place. -/
def tableOf (place : Nat) (entries : List (Scalar × Setting)) : Setting :=
  .shared place (Table.ofPairs entries)

/-- The entry that a pair stands for. -/
def entryOf (g : Collections) (depth : Nat)
    (value : Node → Placed Setting) (p : Node × Node) :
    Placed (Scalar × Setting) :=
  both (·, ·) (placed depth (entryKey g p.1)) (value p.2)

/-- The pair that a mapping with a single key stands for. -/
def pairOf (g : Collections) (depth : Nat)
    (value : Node → Placed Setting) (n : Node) : Placed Setting :=
  match g.resolve n with
  | .mapping _ _ [(k, v)] => both .pair (value k) (value v)
  | _ => .error (depth, .malformed)

/-- The setting that a node stands for, `above` being the places of the
collections that it lies in. The content of a collection lies one level
deeper than the collection. -/
def valueAt (g : Collections) (fuel depth : Nat) (above : List Nat)
    (n : Node) : Placed Setting :=
  match fuel with
  | 0 => .error (depth, .malformed)
  | fuel + 1 =>
    match g.resolve n with
    | .scalar tag s plain =>
      if (standard? standardCollections tag).isSome then
        .error (depth + 1, .malformed)
      else placed depth ((scalarValue tag s plain).map .scalar)
    | .sequence tag place items =>
      let value := valueAt g fuel (depth + 1) (place :: above)
      if above.contains place then .ok (.again place false)
      else match collectionType? tag false with
      | none =>
        placed depth
          ((scalarInstead g tag (.sequence tag place items)).map .scalar)
      | some .list => (inRow value items).map (.looped place)
      | some .pairs =>
        (inRow (pairOf g (depth + 1) value) items).map (.looped place)
      | some _ => .error (depth + 1, .malformed)
    | .mapping tag place pairs =>
      let entries := fun pairs => inRow (entryOf g (depth + 1)
        (valueAt g fuel (depth + 1) (place :: above))) pairs
      if above.contains place then .ok (.again place true)
      else match collectionType? tag true, pairsAt? g place pairs with
      | none, _ =>
        placed depth
          ((scalarInstead g tag (.mapping tag place pairs)).map .scalar)
      | some .set, some pairs => (entries pairs).map setOf
      | some .table, some pairs => (entries pairs).map (tableOf place)
      | some _, _ => .error (depth + 1, .malformed)
    | .referred _ => .error (depth, .malformed)

/-- The setting that the node of a document stands for. No collection lies
in itself more than once. -/
def documentValue (n : Node) : Except Fault Setting :=
  let g := n.collections
  match valueAt g (g.length + 2) 0 [] n with
  | .ok v => .ok v.onceShared
  | .error (_, f) => .error f

/-- The setting of a text in which collections may be nested to a
depth. -/
def parse (depth : Nat) (text : List Char) : Except Fault Setting := do
  if !text.all isAllowed then throw .malformed
  match ← Node.ofTokens depth (tokens depth text) with
  | none => return .null
  | some n => documentValue n

end ApiBook.Yaml
