/-
The nodes of a YAML text: scalars, sequences and mappings with their
tags.

* `Node`: a node; a collection that stands in a further place, or in
  itself, stands there by its own place;
* `Node.ofTokens`: the one node of a text, if it has one.

Reading stops at the first token that cannot come where it stands; if the
text itself cannot be read there, that is the fault.
-/
import ApiBook.Yaml.Token

namespace ApiBook.Yaml

/-- A node. Scalars keep whether they were written without quotes, as
only then their form tells their type. Collections keep the place that
they are written at, by which they are `referred` to in other places. -/
inductive Node where
  | scalar (tag : Option String) (text : Text) (plain : Bool)
  | sequence (tag : Option String) (place : Nat) (items : List Node)
  | mapping (tag : Option String) (place : Nat)
      (pairs : List (Node × Node))
  | referred (place : Nat)

namespace Node

/-- A scalar that is not written at all. -/
def absent : Node := scalar none "" true

/-- A node as it stands in a further place. -/
def again : Node → Node
  | sequence _ place _ => referred place
  | mapping _ place _ => referred place
  | n => n

/-- Names given to nodes, the last one first, with what stands for each in
a further place. -/
abbrev Anchors := List (String × Node)

/-- The meanings of tag handles. -/
abbrev Handles := List (String × String)

/-- The handles that every document has. -/
def defaultHandles : Handles :=
  [("!", "!"), ("!!", "tag:yaml.org,2002:")]

/-- What a reader finds: a node, the tokens left, and the names given so
far. -/
abbrev Parsed (α : Type) := α × List Token × Anchors

/-- The fault of a token that cannot come where it stands. -/
def fault : List Token → Fault
  | .unreadable f :: _ => f
  | _ => .malformed

/-- Where a reader stands: the handles of the document, and the number of
collections that may still be opened. -/
structure Scope where
  handles : Handles
  room : Nat

/-- A tag in full. -/
def fullTag (s : Scope) (handle : Option String) (suffix : String) :
    Except Fault String :=
  match handle with
  | none => .ok suffix
  | some h => orMalformed ((s.handles.lookup h).map (· ++ suffix))

/-- The tag and the name before a node, in any order. -/
def properties (s : Scope) :
    List Token → Except Fault ((Option String × Option String) × List Token)
  | .anchor a :: .tag h t :: ts => do
    return ((some (← fullTag s h t), some a), ts)
  | .tag h t :: .anchor a :: ts => do
    return ((some (← fullTag s h t), some a), ts)
  | .anchor a :: ts => .ok ((none, some a), ts)
  | .tag _ _ :: .unreadable f :: _ => .error f
  | .tag h t :: ts => do return ((some (← fullTag s h t), none), ts)
  | ts => .ok ((none, none), ts)

/-- Names with one more. -/
def named (anchor : Option String) (n : Node) (as : Anchors) : Anchors :=
  match anchor with
  | none => as
  | some a => (a, n.again) :: as

/-- Whether a name is taken; no name is given twice. -/
def isTaken (anchor : Option String) (as : Anchors) : Bool :=
  anchor.any fun a => (as.lookup a).isSome

/-- The place of a collection that begins after a token. -/
def placeOf (ts : List Token) : Nat := ts.length

/-- What a name stands for inside the collection that it is given to. -/
def inside? : List Token → Option Node
  | .flowSequenceStart :: ts => some (referred (placeOf ts))
  | .blockSequenceStart :: ts => some (referred (placeOf ts))
  | .blockEntry :: ts => some (referred (placeOf ts))
  | .flowMappingStart :: ts => some (referred (placeOf ts))
  | .blockMappingStart :: ts => some (referred (placeOf ts))
  | _ => none

/-- Names as they hold for the content of a node with a name. -/
def innerNames (anchor : Option String) (ts : List Token) (as : Anchors) :
    Anchors :=
  match inside? ts with
  | some n => named anchor n as
  | none => as

/-- The scope inside one more collection. -/
def Scope.inner (s : Scope) : Except Fault Scope :=
  match s.room with
  | 0 => .error .tooDeep
  | room + 1 => .ok { s with room }

/-- Whether the value of a block mapping ends before this token. -/
def endsBlockValue : List Token → Bool
  | .key :: _ => true
  | .value :: _ => true
  | .blockEnd :: _ => true
  | _ => false

/-- Whether an item of a sequence without indentation ends before this
token. -/
def endsBareItem : List Token → Bool
  | .blockEntry :: _ => true
  | ts => endsBlockValue ts

/-- Whether an item of an indented sequence ends before this token. -/
def endsItem : List Token → Bool
  | .blockEntry :: _ => true
  | .blockEnd :: _ => true
  | _ => false

/-- Whether a value inside square brackets ends before this token. -/
def endsFlowItem : List Token → Bool
  | .flowEntry :: _ => true
  | .flowSequenceEnd :: _ => true
  | _ => false

/-- Whether a value inside curly brackets ends before this token. -/
def endsFlowValue : List Token → Bool
  | .flowEntry :: _ => true
  | .flowMappingEnd :: _ => true
  | _ => false

/-- Whether a key ends before this token, where values end as given. -/
def endsKey (ends : List Token → Bool) : List Token → Bool
  | .value :: _ => true
  | ts => ends ts

mutual

/-- A node. `block` tells whether block collections may come, `bare`
whether a sequence may come without indentation. -/
def readNode (s : Scope) (block bare : Bool) (fuel : Nat)
    (ts : List Token) (as : Anchors) : Except Fault (Parsed Node) :=
  match fuel with
  | 0 => .error .malformed
  | fuel + 1 =>
    match ts with
    | .alias a :: ts => do return (← orMalformed (as.lookup a), ts, as)
    | ts => do
      let ((tag, anchor), ts) ← properties s ts
      if isTaken anchor as then throw .malformed
      let (n, ts, as) ← readContent s block bare tag
        (tag.isSome || anchor.isSome) fuel ts (innerNames anchor ts as)
      return (n, ts, named anchor n as)

/-- The content of a node with a tag; `empty` tells whether it may be
missing. -/
def readContent (s : Scope) (block bare : Bool)
    (tag : Option String) (empty : Bool) (fuel : Nat) (ts : List Token)
    (as : Anchors) : Except Fault (Parsed Node) :=
  match fuel with
  | 0 => .error .malformed
  | fuel + 1 =>
    let missing : Except Fault (Parsed Node) :=
      if empty then .ok (.scalar tag "" true, ts, as) else .error (fault ts)
    match ts with
    | .scalar text plain :: ts => .ok (.scalar tag text plain, ts, as)
    | .flowSequenceStart :: rest => do
      let (items, ts, as) ← readFlowItems (← s.inner) true fuel rest as
      return (.sequence tag (placeOf rest) items, ts, as)
    | .flowMappingStart :: rest => do
      let (pairs, ts, as) ← readFlowPairs (← s.inner) true fuel rest as
      return (.mapping tag (placeOf rest) pairs, ts, as)
    | .blockEntry :: rest =>
      if bare then do
        let (items, ts, as) ←
          readBareItems (← s.inner) fuel (.blockEntry :: rest) as
        return (.sequence tag (placeOf rest) items, ts, as)
      else missing
    | .blockSequenceStart :: rest =>
      if block then do
        let (items, ts, as) ← readBlockItems (← s.inner) fuel rest as
        return (.sequence tag (placeOf rest) items, ts, as)
      else missing
    | .blockMappingStart :: rest =>
      if block then do
        let (pairs, ts, as) ← readBlockPairs (← s.inner) fuel rest as
        return (.mapping tag (placeOf rest) pairs, ts, as)
      else missing
    | _ => missing

/-- A node, or an absent scalar where nothing stands. -/
def readNodeOr (s : Scope) (block bare missing : Bool) (fuel : Nat)
    (ts : List Token) (as : Anchors) : Except Fault (Parsed Node) :=
  match fuel with
  | 0 => .error .malformed
  | fuel + 1 =>
    if missing then .ok (absent, ts, as)
    else readNode s block bare fuel ts as

/-- The items of an indented block sequence. -/
def readBlockItems (s : Scope) (fuel : Nat) (ts : List Token)
    (as : Anchors) : Except Fault (Parsed (List Node)) :=
  match fuel with
  | 0 => .error .malformed
  | fuel + 1 =>
    match ts with
    | .blockEntry :: ts => do
      let (n, ts, as) ←
        readNodeOr s true false (endsItem ts) fuel ts as
      let (ns, ts, as) ← readBlockItems s fuel ts as
      return (n :: ns, ts, as)
    | .blockEnd :: ts => .ok ([], ts, as)
    | ts => .error (fault ts)

/-- The items of a block sequence without indentation. -/
def readBareItems (s : Scope) (fuel : Nat) (ts : List Token)
    (as : Anchors) : Except Fault (Parsed (List Node)) :=
  match fuel with
  | 0 => .error .malformed
  | fuel + 1 =>
    match ts with
    | .blockEntry :: ts => do
      let (n, ts, as) ←
        readNodeOr s true false (endsBareItem ts) fuel ts as
      let (ns, ts, as) ← readBareItems s fuel ts as
      return (n :: ns, ts, as)
    | ts => .ok ([], ts, as)

/-- The pairs of a block mapping. -/
def readBlockPairs (s : Scope) (fuel : Nat) (ts : List Token)
    (as : Anchors) : Except Fault (Parsed (List (Node × Node))) :=
  match fuel with
  | 0 => .error .malformed
  | fuel + 1 =>
    match ts with
    | .key :: ts => do
      let (k, ts, as) ←
        readNodeOr s true true (endsBlockValue ts) fuel ts as
      let (v, ts, as) ← readValueAfter s true endsBlockValue fuel ts as
      let (ps, ts, as) ← readBlockPairs s fuel ts as
      return ((k, v) :: ps, ts, as)
    | .blockEnd :: ts => .ok ([], ts, as)
    | ts => .error (fault ts)

/-- The value after a key, absent if there is no colon or nothing after
it. -/
def readValueAfter (s : Scope) (block : Bool)
    (ends : List Token → Bool) (fuel : Nat) (ts : List Token)
    (as : Anchors) : Except Fault (Parsed Node) :=
  match fuel with
  | 0 => .error .malformed
  | fuel + 1 =>
    match ts with
    | .value :: ts => readNodeOr s block block (ends ts) fuel ts as
    | ts => .ok (absent, ts, as)

/-- The items inside square brackets; `first` tells that no comma is
needed. -/
def readFlowItems (s : Scope) (first : Bool) (fuel : Nat)
    (ts : List Token) (as : Anchors) : Except Fault (Parsed (List Node)) :=
  match fuel with
  | 0 => .error .malformed
  | fuel + 1 =>
    match first, ts with
    | _, .flowSequenceEnd :: ts => .ok ([], ts, as)
    | true, ts => readFlowItem s fuel ts as
    | false, .flowEntry :: .flowSequenceEnd :: ts => .ok ([], ts, as)
    | false, .flowEntry :: ts => readFlowItem s fuel ts as
    | false, ts => .error (fault ts)

/-- An item inside square brackets, and the items after it; a single
pair may stand without curly brackets. -/
def readFlowItem (s : Scope) (fuel : Nat) (ts : List Token)
    (as : Anchors) : Except Fault (Parsed (List Node)) :=
  match fuel with
  | 0 => .error .malformed
  | fuel + 1 =>
    match ts with
    | .key :: rest => do
      let inner ← s.inner
      let (k, ts, as) ←
        readNodeOr inner false false (endsKey endsFlowItem rest) fuel rest
          as
      let (v, ts, as) ← readValueAfter inner false endsFlowItem fuel ts as
      let (ns, ts, as) ← readFlowItems s false fuel ts as
      return (.mapping none (placeOf rest) [(k, v)] :: ns, ts, as)
    | ts => do
      let (n, ts, as) ← readNode s false false fuel ts as
      let (ns, ts, as) ← readFlowItems s false fuel ts as
      return (n :: ns, ts, as)

/-- The pairs inside curly brackets; `first` tells that no comma is
needed. -/
def readFlowPairs (s : Scope) (first : Bool) (fuel : Nat)
    (ts : List Token) (as : Anchors) :
    Except Fault (Parsed (List (Node × Node))) :=
  match fuel with
  | 0 => .error .malformed
  | fuel + 1 =>
    match first, ts with
    | _, .flowMappingEnd :: ts => .ok ([], ts, as)
    | true, ts => readFlowPair s fuel ts as
    | false, .flowEntry :: .flowMappingEnd :: ts => .ok ([], ts, as)
    | false, .flowEntry :: ts => readFlowPair s fuel ts as
    | false, ts => .error (fault ts)

/-- A pair inside curly brackets, and the pairs after it; a key alone
has an absent value. -/
def readFlowPair (s : Scope) (fuel : Nat) (ts : List Token)
    (as : Anchors) : Except Fault (Parsed (List (Node × Node))) :=
  match fuel with
  | 0 => .error .malformed
  | fuel + 1 =>
    match ts with
    | .key :: ts => do
      let (k, ts, as) ←
        readNodeOr s false false (endsKey endsFlowValue ts) fuel ts as
      let (v, ts, as) ← readValueAfter s false endsFlowValue fuel ts as
      let (ps, ts, as) ← readFlowPairs s false fuel ts as
      return ((k, v) :: ps, ts, as)
    | ts => do
      let (k, ts, as) ← readNode s false false fuel ts as
      let (ps, ts, as) ← readFlowPairs s false fuel ts as
      return ((k, absent) :: ps, ts, as)

end

/-! ### Documents -/

/-- The handles after the directives of a document, and the tokens
after them. -/
def directives (version : Bool) (handles : Handles) :
    List Token → Except Fault (Handles × List Token)
  | .directive (.version major) :: ts =>
    if version || major ≠ 1 then .error .malformed
    else directives true handles ts
  | .directive (.handle h target) :: ts =>
    if (handles.lookup h).isSome then .error .malformed
    else directives version ((h, target) :: handles) ts
  | .directive .other :: ts => directives version handles ts
  | ts => .ok (handles, ts)

/-- The tokens after a document, of which none may be left but marks of
the end. -/
def atEnd : List Token → Except Fault Unit
  | .documentEnd :: ts => atEnd ts
  | [.streamEnd] => .ok ()
  | ts => .error (fault ts)

/-- Whether a document has no content. -/
def isBlank : List Token → Bool
  | .directive _ :: _ => true
  | .documentStart :: _ => true
  | .documentEnd :: _ => true
  | .streamEnd :: _ => true
  | _ => false

/-- The node of a document that ends the text, with room for collections
in each other. -/
def only (room : Nat) (handles : Handles) (ts : List Token) :
    Except Fault Node := do
  let scope := { handles, room }
  let (n, ts, _) ← readNode scope true false (8 * ts.length + 8) ts []
  atEnd ts
  return n

/-- A document after its marker. -/
def afterMarker (room : Nat) (handles : Handles) (ts : List Token) :
    Except Fault Node := do
  if isBlank ts then
    atEnd ts
    return absent
  else only room handles ts

/-- The node of a text, if it has one: at most one document, with or
without a marker at its start. -/
def ofTokens (room : Nat) (ts : List Token) :
    Except Fault (Option Node) := do
  match ts with
  | [.streamEnd] => return none
  | .directive _ :: _ =>
    let (own, rest) ← directives false [] ts
    match rest with
    | .documentStart :: rest =>
      return some (← afterMarker room (own ++ defaultHandles) rest)
    | rest => throw (fault rest)
  | .documentStart :: rest =>
    return some (← afterMarker room defaultHandles rest)
  | ts => return some (← only room defaultHandles ts)

end Node

end ApiBook.Yaml
