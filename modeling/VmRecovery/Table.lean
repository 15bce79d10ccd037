import Std.Data.TreeMap

/-!
# Tables that are filled by a scan

A scan notes an entry for some of the items that it passes, and an entry takes the place of an
earlier one for the same key.
-/

namespace VmRecovery

variable {α β κ : Type} [Ord κ] (note? : α → Option (κ × β))

/-- Notes the entry of an item, if it has one. -/
def noteEntry (table : Std.TreeMap κ β) (item : α) : Std.TreeMap κ β :=
  match note? item with
  | some (key, value) => table.insert key value
  | none => table

/-- The entries of some items, noted in their order. -/
def tableOf (items : List α) : Std.TreeMap κ β :=
  items.foldl (noteEntry note?) {}

end VmRecovery
