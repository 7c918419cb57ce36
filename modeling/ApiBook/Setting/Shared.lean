/-
Tables that stand in several places at once, and what contains itself.

* `Setting.marks`: the marks in a setting, each as often as it stands
  there; `Setting.loops`: the marks of what is met again;
* `Setting.unshare`: a setting without the marks that say nothing;
* `Setting.change`: a setting in which a shared table is changed wherever
  it stands.
-/
import ApiBook.Setting.Basic

namespace ApiBook.Setting

/-! ### Marks -/

mutual

/-- The marks of the shared tables in a setting. -/
def marks : Setting → List Nat
  | .list items => marksOfItems items
  | .pair v w => v.marks ++ w.marks
  | .table es => marksOfEntries es
  | .shared mark es => mark :: marksOfEntries es
  | .looped _ items => marksOfItems items
  | _ => []

/-- The marks of the shared tables in items. -/
def marksOfItems : List Setting → List Nat
  | [] => []
  | v :: vs => v.marks ++ marksOfItems vs

/-- The marks of the shared tables in entries. -/
def marksOfEntries : List (Scalar × Setting) → List Nat
  | [] => []
  | (_, v) :: es => v.marks ++ marksOfEntries es

end

mutual

/-- The marks of what is met again in a setting. -/
def loops : Setting → List Nat
  | .list items => loopsOfItems items
  | .pair v w => v.loops ++ w.loops
  | .table es => loopsOfEntries es
  | .shared _ es => loopsOfEntries es
  | .looped _ items => loopsOfItems items
  | .again mark _ => [mark]
  | _ => []

/-- The marks of what is met again in items. -/
def loopsOfItems : List Setting → List Nat
  | [] => []
  | v :: vs => v.loops ++ loopsOfItems vs

/-- The marks of what is met again in entries. -/
def loopsOfEntries : List (Scalar × Setting) → List Nat
  | [] => []
  | (_, v) :: es => v.loops ++ loopsOfEntries es

end

mutual

/-- A setting in which only tables with certain marks are shared, and only
lists with certain marks looped. -/
def unshare (isShared isLooped : Nat → Bool) : Setting → Setting
  | .list items => .list (unshareItems isShared isLooped items)
  | .pair v w =>
    .pair (v.unshare isShared isLooped) (w.unshare isShared isLooped)
  | .table es => .table (unshareEntries isShared isLooped es)
  | .shared mark es =>
    if isShared mark then
      .shared mark (unshareEntries isShared isLooped es)
    else .table (unshareEntries isShared isLooped es)
  | .looped mark items =>
    if isLooped mark then
      .looped mark (unshareItems isShared isLooped items)
    else .list (unshareItems isShared isLooped items)
  | v => v

/-- Items in which only some tables are shared. -/
def unshareItems (isShared isLooped : Nat → Bool) :
    List Setting → List Setting
  | [] => []
  | v :: vs =>
    v.unshare isShared isLooped :: unshareItems isShared isLooped vs

/-- Entries in which only some tables are shared. -/
def unshareEntries (isShared isLooped : Nat → Bool) :
    List (Scalar × Setting) → List (Scalar × Setting)
  | [] => []
  | (k, v) :: es =>
    (k, v.unshare isShared isLooped)
      :: unshareEntries isShared isLooped es

end

/-- A setting in which those tables are shared that stand in several
places or in themselves, and those lists looped that stand in
themselves. -/
def onceShared (v : Setting) : Setting :=
  let marks := v.marks
  let loops := v.loops
  v.unshare (fun mark => 1 < marks.count mark + loops.count mark)
    (loops.contains ·)

/-! ### Changes -/

mutual

/-- A setting with a change to the entries of the table with a mark,
wherever it stands. -/
def change (mark : Nat) (f : Table → Table) : Setting → Setting
  | .list items => .list (changeItems mark f items)
  | .pair v w => .pair (v.change mark f) (w.change mark f)
  | .table es => .table (changeEntries mark f es)
  | .shared m es =>
    .shared m (if m = mark then f (changeEntries mark f es)
      else changeEntries mark f es)
  | .looped m items => .looped m (changeItems mark f items)
  | v => v

/-- Items with a change to a table wherever it stands. -/
def changeItems (mark : Nat) (f : Table → Table) :
    List Setting → List Setting
  | [] => []
  | v :: vs => v.change mark f :: changeItems mark f vs

/-- Entries with a change to a table wherever it stands. -/
def changeEntries (mark : Nat) (f : Table → Table) :
    List (Scalar × Setting) → List (Scalar × Setting)
  | [] => []
  | (k, v) :: es => (k, v.change mark f) :: changeEntries mark f es

end

end ApiBook.Setting
